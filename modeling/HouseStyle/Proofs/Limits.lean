import HouseStyle.CommandLine.Run
import HouseStyle.Proofs.Check
import Mathlib.Data.List.Induction

/-!
Contract: the limits for the length of lines that checks are asked for.

Owns: the size of the numbers that are read, and the limits that come from the environment and from
the command line.
Does not own: what becomes of a check with a limit that has too many digits.

A number with too many digits to be written is not read either, so every limit that is read can be
written, and no check fails on it. Only a caller who hands over the settings directly can ask for
another one.

Main statements: `Environment.checkText_ne_error` and `CommandLine.checkText_ne_error`.
-/

namespace HouseStyle

/-! ## Numbers that are read -/

namespace Text

theorem digitValue?_lt {c : Char} {value : Nat} (digit : digitValue? c = some value) :
    value < 10 := by
  obtain ⟨base, found, rfl⟩ := Option.map_eq_some_iff.mp digit
  have inside := List.find?_some found
  simp only [Bool.and_eq_true, decide_eq_true_eq] at inside
  omega

/-- A run of digits has a value below the power of ten with as many zeros. -/
theorem digitsValue_lt (digits : List Char) : digitsValue digits < 10 ^ digits.length := by
  induction digits using List.reverseRecOn with
  | nil => decide
  | append_singleton digits c inductionHypothesis =>
    have digit : (digitValue? c).getD 0 < 10 := by
      cases known : digitValue? c with
      | none => decide
      | some value => exact digitValue?_lt known
    have value : digitsValue (digits ++ [c]) =
        10 * digitsValue digits + (digitValue? c).getD 0 := List.foldl_append
    rw [value, List.length_append, List.length_singleton, Nat.pow_succ]
    omega

theorem readUnsigned?_lt {text : List Char} {value : Nat} (read : readUnsigned? text = some value) :
    value < numeralBound := by
  obtain ⟨digits, -, read⟩ := Option.bind_eq_some_iff.mp read
  obtain ⟨short, same⟩ := Option.ite_none_right_eq_some.mp read
  cases same
  rw [numeralBound_eq_pow]
  exact Nat.lt_of_lt_of_le (digitsValue_lt digits) (Nat.pow_le_pow_right (by decide) short)

/-- An integer that is read is no longer than a number may be that is written. -/
theorem natAbs_lt_of_readInt? {text : List Char} {value : Int} (read : readInt? text = some value) :
    value.natAbs < numeralBound := by
  unfold readInt? at read
  dsimp only at read
  split at read <;> obtain ⟨unsigned, found, rfl⟩ := Option.map_eq_some_iff.mp read
  · exact readUnsigned?_lt found
  · obtain ⟨value, unsigned, same⟩ := Option.bind_eq_some_iff.mp found
    cases same
    rw [Int.natAbs_neg]
    exact readUnsigned?_lt unsigned
  · exact readUnsigned?_lt found

end Text

/-! ## The environment -/

/-- Requests are checked with a limit that can be written, whatever the environment holds. -/
theorem Environment.writable_settings (environment : Environment) (requested : Option Style) :
    (environment.settings requested).Writable := by
  apply Settings.writable_of_nonneg
  show 0 ≤ environment.limit
  unfold Environment.limit
  cases found : (environment.lookup "CSTYLE_MAX_LINE_LENGTH").bind positive? with
  | none => decide
  | some limit =>
    obtain ⟨text, -, read⟩ := Option.bind_eq_some_iff.mp found
    have positive := (Option.filter_eq_some_iff.mp read).2
    exact Int.le_of_lt (of_decide_eq_true positive)

/-- No check that is asked for in a request fails on its limit. -/
theorem Environment.checkText_ne_error (environment : Environment) (requested : Option Style)
    (path : Path) (text : List Char) :
    checkText (environment.settings requested) path text ≠ .error (.numeralTooLong none) :=
  checkText_ne_error_of_writable (environment.writable_settings requested) path text

/-! ## The command line -/

namespace CommandLine

namespace Reading

variable {reading next : Reading}

/-- A limit that has been read so far is no longer than a number may be that is written. -/
def Short (reading : Reading) : Prop :=
  ∀ limit, reading.maxLineLength = some limit → limit.natAbs < Text.numeralBound

theorem short_initial (outputDir : Path) : (initial outputDir).Short := by
  rintro limit ⟨⟩
  decide +kernel

theorem Short.of_eq (short : reading.Short) (same : next.maxLineLength = reading.maxLineLength) :
    next.Short :=
  fun limit read => short limit (same.symm.trans read)

theorem maxLineLength_switch {flag : Flag} (switched : reading.switch flag = .ok next) :
    next.maxLineLength = reading.maxLineLength := by
  cases flag <;> cases switched <;> rfl

theorem maxLineLength_switches {flags : List Flag}
    (switched : flags.foldlM switch reading = .ok next) :
    next.maxLineLength = reading.maxLineLength := by
  induction flags generalizing reading with
  | nil =>
    cases switched
    rfl
  | cons flag flags inductionHypothesis =>
    rw [List.foldlM_cons] at switched
    obtain ⟨between, first, others⟩ := Answer.bind_eq_ok.mp switched
    exact (inductionHypothesis others).trans (maxLineLength_switch first)

theorem maxLineLength_place {text : List Char} {shielded : Bool}
    (placed : reading.place text shielded = .ok next) :
    next.maxLineLength = reading.maxLineLength := by
  unfold place at placed
  repeat' split at placed
  all_goals cases placed
  all_goals rfl

/-- The only limit that an option sets is one that is read. -/
theorem Short.assign (short : reading.Short) {flag : Flag} {value : Option (List Char)}
    (assigned : reading.assign flag value = .ok next) : next.Short := by
  unfold Reading.assign at assigned
  split at assigned
  · cases assigned
    exact short
  · cases assigned
    exact nofun
  · split at assigned
    next limit read =>
      cases assigned
      rintro _ ⟨⟩
      exact Text.natAbs_lt_of_readInt? read
    next => cases assigned
  · cases assigned

/-- The options of one word leave a reading short. -/
theorem Short.options (short : reading.Short) {flags : List Flag} {between : Reading}
    (switched : flags.foldlM switch reading = .ok between) {last : Flag}
    {value : Option (List Char)} (assigned : between.assign last value = .ok next) : next.Short :=
  (short.of_eq (maxLineLength_switches switched)).assign assigned

end Reading

theorem maxLineLength_go {reading next : Reading} {shielded : Bool} {tokens : List Token}
    (read : readAfterDivider.go reading shielded tokens = .ok next) :
    next.maxLineLength = reading.maxLineLength := by
  induction tokens generalizing reading shielded with
  | nil =>
    cases read
    rfl
  | cons token tokens inductionHypothesis =>
    cases token with
    | value text =>
      obtain ⟨between, placed, others⟩ := Answer.bind_eq_ok.mp read
      exact (inductionHypothesis others).trans (Reading.maxLineLength_place placed)
    | option | unknown | divider =>
      exact @inductionHypothesis { reading with hasExtra := true } false read

theorem maxLineLength_readAfterDivider {reading next : Reading} {belongs : Bool}
    {values : List Token} (read : readAfterDivider reading belongs values = .ok next) :
    next.maxLineLength = reading.maxLineLength := by
  refine (maxLineLength_go read).trans ?_
  split <;> rfl

/-- A reading stays short from token to token. -/
theorem Reading.Short.readTokens {reading next : Reading} (short : reading.Short)
    {afterValue : Bool} {tokens : List Token}
    (read : CommandLine.readTokens reading afterValue tokens = .ok next) : next.Short := by
  -- an option may take the next token as its value, so the induction is on the number of tokens
  induction count : tokens.length using Nat.strongRecOn
    generalizing reading afterValue tokens with
  | _ count inductionHypothesis =>
    subst count
    cases tokens with
    | nil =>
      cases read
      exact short
    | cons token rest =>
      have onRest : ∀ {between : Reading} {after : Bool}, between.Short →
          CommandLine.readTokens between after rest = .ok next → next.Short :=
        fun short read => inductionHypothesis _ (Nat.lt_succ_self _) short read rfl
      cases token with
      | divider => exact short.of_eq (maxLineLength_readAfterDivider read)
      | unknown => exact @onRest { reading with hasExtra := true } false (short.of_eq rfl) read
      | value text =>
        obtain ⟨between, placed, read⟩ := Answer.bind_eq_ok.mp read
        exact onRest (short.of_eq (maxLineLength_place placed)) read
      | option flag isLong attached =>
        rw [CommandLine.readTokens] at read
        obtain ⟨cluster, -, read⟩ := Answer.bind_eq_ok.mp read
        split at read
        next =>
          obtain ⟨between, switched, read⟩ := Answer.bind_eq_ok.mp read
          exact onRest (short.of_eq (maxLineLength_switches switched)) read
        next last value _ =>
          obtain ⟨between, switched, read⟩ := Answer.bind_eq_ok.mp read
          obtain ⟨set, assigned, read⟩ := Answer.bind_eq_ok.mp read
          exact onRest (short.options switched assigned) read
        next last _ =>
          split at read
          next =>
            obtain ⟨between, switched, read⟩ := Answer.bind_eq_ok.mp read
            obtain ⟨set, assigned, read⟩ := Answer.bind_eq_ok.mp read
            exact inductionHypothesis _ (Nat.lt_succ_of_le (Nat.le_succ _))
              (short.options switched assigned) read rfl
          next => cases read

/-- Texts are checked with a limit that can be written, whatever the command line says. -/
theorem writable_settingsFor {outputDir : Path} {arguments : List String} {options : Options}
    (parsed : Options.parse outputDir arguments = .ok options) {text : List Char}
    {settings : Settings} (given : settingsFor options text = .ok settings) : settings.Writable := by
  obtain ⟨tokens, -, parsed⟩ := Answer.bind_eq_ok.mp parsed
  obtain ⟨reading, read, parsed⟩ := Answer.bind_eq_ok.mp parsed
  have short := (Reading.short_initial outputDir).readTokens read
  unfold settingsFor at given
  split at parsed
  next style target _ _ _ =>
    cases parsed
    split at given
    next limit known =>
      cases given
      exact fun _ => short limit known
    next =>
      split at given
      · cases given
        exact Settings.writable_of_nonneg (show (0 : Int) ≤ 80 by decide)
      · cases given
  next => cases parsed

/-- No check that is asked for on the command line fails on its limit. -/
theorem checkText_ne_error {outputDir : Path} {arguments : List String} {options : Options}
    (parsed : Options.parse outputDir arguments = .ok options) {text : List Char}
    {settings : Settings} (given : settingsFor options text = .ok settings) (path : Path) :
    checkText settings path text ≠ .error (.numeralTooLong none) :=
  checkText_ne_error_of_writable (writable_settingsFor parsed given) path text

end CommandLine

end HouseStyle
