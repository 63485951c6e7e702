import HouseStyle.Proofs.Comments
import HouseStyle.Proofs.File.Alike
import HouseStyle.Proofs.File.Findings
import HouseStyle.Proofs.Inclusion

/-!
Contract: inclusions and guards on lines that differ in comments only.

Owns: which directives are read where a comment is, and the agreement of the check on inclusions on
all others.
Does not own: the other checks.

An inclusion is read off the line as it is written, and so is everything that protects a header. A
directive that starts in code has no comment before its end, or one that starts with a slash, which
none of these directives holds but the target of an inclusion. So only two cases are left out: a
comment that the target of an inclusion reaches into, and a line of a comment that is written like a
directive.

Main statement: `diagnostics_of_sameBesideComments`.
-/

namespace HouseStyle

/-- A line on which no comment starts before the end of an inclusion, if it has code and is one. -/
def Line.InclusionClear (line : Line) : Prop :=
  line.hasCode → ∀ found ∈ Lexicon.inclusion.matchStart? line.raw,
    ∀ comment ∈ line.comments, found.stop ≤ comment.start

instance (line : Line) : Decidable line.InclusionClear :=
  inferInstanceAs (Decidable (line.hasCode → ∀ found ∈ Lexicon.inclusion.matchStart? line.raw,
    ∀ comment ∈ line.comments, found.stop ≤ comment.start))

namespace Includes

/-! ## Inclusions -/

/-- The inclusion with nothing shown of its line but where the first hash stands and how long it
is. -/
def Inclusion.outlined (inclusion : Inclusion) : Inclusion :=
  let lead := inclusion.raw.takeWhile (· != '#')
  { inclusion with raw := lead ++ List.replicate (inclusion.raw.length - lead.length) '#' }

theorem length_outlined (inclusion : Inclusion) :
    inclusion.outlined.raw.length = inclusion.raw.length := by
  have shorter := (List.takeWhile_prefix (· != '#') (l := inclusion.raw)).length_le
  simp only [Inclusion.outlined, List.length_append, List.length_replicate]
  omega

theorem find?_outline (raw : List Char) :
    Text.find? ['#'] (raw.takeWhile (· != '#') ++
      List.replicate (raw.length - (raw.takeWhile (· != '#')).length) '#') =
        Text.find? ['#'] raw := by
  induction raw with
  | nil => rfl
  | cons c raw inductionHypothesis =>
    by_cases hash : c = '#'
    · subst hash
      rfl
    · rw [List.takeWhile_cons_of_pos (by simpa using hash), List.length_cons, List.length_cons,
        Nat.add_sub_add_right, List.cons_append, Text.find?, Text.find?, inductionHypothesis]
      simp [List.isPrefixOf, Ne.symm hash]

theorem directiveDiagnostic_outlined (kind : Kind) (inclusion : Inclusion)
    (arguments : List Argument) :
    directiveDiagnostic kind inclusion.outlined arguments =
      directiveDiagnostic kind inclusion arguments := by
  have index : Text.index ['#'] 0 inclusion.outlined.raw = Text.index ['#'] 0 inclusion.raw := by
    simp only [Text.index, Text.findFrom?, List.drop_zero, Inclusion.outlined, find?_outline]
  unfold directiveDiagnostic
  rw [index, length_outlined]
  rfl

theorem recursionDiagnostics_outlined (path : Path) (inclusions : List Inclusion) :
    recursionDiagnostics path (inclusions.map Inclusion.outlined) =
      recursionDiagnostics path inclusions := by
  unfold recursionDiagnostics
  rw [List.filter_map, List.mapM_map]
  rfl

theorem mixedDiagnostics_outlined (system project : List Inclusion) :
    mixedDiagnostics (system.map Inclusion.outlined) (project.map Inclusion.outlined) =
      mixedDiagnostics system project := by
  unfold mixedDiagnostics
  rw [List.head?_map, List.getLast?_map]
  cases project.head? with
  | none => rfl
  | some first =>
    cases system.getLast? with
    | none => rfl
    | some last =>
      simp only [Option.map_some, directiveDiagnostic_outlined]
      rfl

theorem beforeUnsorted?_outlined (inclusions : List Inclusion) :
    beforeUnsorted? (inclusions.map Inclusion.outlined) =
      (beforeUnsorted? inclusions).map Inclusion.outlined := by
  have keys : ((inclusions.map Inclusion.outlined).map fun inclusion => inclusion.target.text) =
      inclusions.map fun inclusion => inclusion.target.text := by
    rw [List.map_map]
    rfl
  unfold beforeUnsorted?
  rw [keys]
  cases firstUnsorted? (inclusions.map fun inclusion => inclusion.target.text) with
  | none => rfl
  | some index => exact List.getElem?_map

theorem orderDiagnostics_outlined (kind : Kind) {arguments : Inclusion → List Argument}
    (blind : ∀ inclusion, arguments inclusion.outlined = arguments inclusion)
    (inclusions : List Inclusion) :
    orderDiagnostics kind arguments (inclusions.map Inclusion.outlined) =
      orderDiagnostics kind arguments inclusions := by
  unfold orderDiagnostics
  rw [beforeUnsorted?_outlined]
  cases beforeUnsorted? inclusions with
  | none => rfl
  | some inclusion => simp only [Option.map_some, directiveDiagnostic_outlined, blind]

theorem systemDiagnostics_outlined (system : List Inclusion) :
    systemDiagnostics (system.map Inclusion.outlined) = systemDiagnostics system :=
  orderDiagnostics_outlined .systemIncludesUnsorted (fun _ => rfl) system

theorem projectDiagnostics_outlined (project : List Inclusion) :
    projectDiagnostics (project.map Inclusion.outlined) = projectDiagnostics project :=
  orderDiagnostics_outlined .projectIncludesUnsorted (fun _ => rfl) project

/-- The check on inclusions reads no more of them than their outlines. -/
theorem diagnostics_of_outlined {file other : SourceFile} (path : file.path = other.path)
    (same : (fromLines 1 file.lines).map Inclusion.outlined =
      (fromLines 1 other.lines).map Inclusion.outlined)
    (guard : file.path.isHeader → guardDiagnostics file = guardDiagnostics other) :
    Includes.diagnostics file = Includes.diagnostics other := by
  have chosen : ∀ test : Inclusion → Bool, (∀ inclusion, test inclusion.outlined = test inclusion) →
      ((fromLines 1 file.lines).filter test).map Inclusion.outlined =
        ((fromLines 1 other.lines).filter test).map Inclusion.outlined := by
    intro test blind
    have outlined : test ∘ Inclusion.outlined = test := funext blind
    have filtered := congrArg (List.filter test) same
    rwa [List.filter_map, List.filter_map, outlined] at filtered
  have system := chosen Inclusion.isSystem fun _ => rfl
  have project := chosen (fun inclusion => !inclusion.isSystem) fun _ => rfl
  unfold Includes.diagnostics
  simp only
  rw [← path, ← recursionDiagnostics_outlined, ← mixedDiagnostics_outlined,
    ← systemDiagnostics_outlined, ← projectDiagnostics_outlined, same, system, project,
    recursionDiagnostics_outlined, mixedDiagnostics_outlined, systemDiagnostics_outlined,
    projectDiagnostics_outlined]
  cases header : file.path.isHeader with
  | true => rw [guard header]
  | false => simp only [Bool.false_eq_true, if_false]

/-! ## Lines that differ in comments -/

/-- The readings of a line by which a header is protected: the start and the end of a guard, the
definition between them, and the directive to read the header once. -/
def readings (guard : List Char) : List (List Char → Bool) :=
  [fun raw => Text.squeeze raw == "#ifndef ".toList ++ guard,
    fun raw => Text.squeeze raw == "#define ".toList ++ guard,
    fun raw => "#endif".toList.isPrefixOf (Text.squeeze raw),
    fun raw => pragmaOnce.fits raw]

/-- Whether a line is read as a part of what protects a header with the given guard. -/
def protects (guard raw : List Char) : Bool :=
  (readings guard).any fun reading => reading raw

/-- A text of blanks and then a hash shows the hash behind all of its first blanks. -/
theorem takeWhile_hash {raw : List Char} (hash : (Text.trimLeft raw).head? = some '#') :
    raw.takeWhile (· != '#') = raw.takeWhile Text.isBlank := by
  induction raw with
  | nil => rfl
  | cons c raw inductionHypothesis =>
    by_cases blank : Text.isBlank c
    · have noHash : c ≠ '#' := by
        rintro rfl
        exact absurd blank (by decide)
      rw [Text.trimLeft, List.dropWhile_cons_of_pos blank] at hash
      rw [List.takeWhile_cons_of_pos (by simpa using noHash), List.takeWhile_cons_of_pos blank,
        inductionHypothesis hash]
    · rw [Text.trimLeft, List.dropWhile_cons_of_neg blank, List.head?_cons,
        Option.some.injEq] at hash
      rw [hash, List.takeWhile_cons_of_neg (by decide), List.takeWhile_cons_of_neg (by decide)]

section Pair

open Line

variable {before otherBefore : CommentState} {raw otherRaw : List Char}
  (same : (ofRaw before raw).SameBesideComments (ofRaw otherBefore otherRaw))
include same

/-- The target of an inclusion that no comment reaches into is read off the other line as well. -/
theorem exists_found (code : (ofRaw before raw).hasCode)
    (clear : (ofRaw before raw).InclusionClear) {found : Match}
    (fits : Lexicon.inclusion.matchStart? raw = some found) :
    ∃ otherFound, Lexicon.inclusion.matchStart? otherRaw = some otherFound ∧
      otherFound.part? .target = found.part? .target := by
  have starts : raw.take found.stop <+: otherRaw := by
    apply same.isPrefix_of_clear (List.take_prefix _ _)
    intro comment member
    exact Nat.le_trans (List.length_take_le _ _) (clear code found fits comment member)
  obtain ⟨otherFound, fitsToo, target, -⟩ := matchStart?_of_isPrefix fits starts
  exact ⟨otherFound, fitsToo, target⟩

variable (clear : (ofRaw before raw).InclusionClear)
  (clearToo : (ofRaw otherBefore otherRaw).InclusionClear)
include clear clearToo

theorem fits_eq (code : (ofRaw before raw).hasCode) :
    Lexicon.inclusion.fits raw = Lexicon.inclusion.fits otherRaw := by
  have codeToo : (ofRaw otherBefore otherRaw).hasCode := by
    rwa [hasCode, ← same.code]
  rw [Bool.eq_iff_iff]
  constructor
  · intro fits
    obtain ⟨found, fits⟩ := Option.isSome_iff_exists.mp fits
    obtain ⟨otherFound, fitsToo, -⟩ := exists_found same code clear fits
    exact Option.isSome_iff_exists.mpr ⟨otherFound, fitsToo⟩
  · intro fits
    obtain ⟨found, fits⟩ := Option.isSome_iff_exists.mp fits
    obtain ⟨otherFound, fitsToo, -⟩ := exists_found same.symm codeToo clearToo fits
    exact Option.isSome_iff_exists.mpr ⟨otherFound, fitsToo⟩

/-- Both lines hold the same inclusion, or none. -/
theorem ofLine?_outlined
    (margin : raw.takeWhile Text.isBlank = otherRaw.takeWhile Text.isBlank) (number : Nat) :
    (ofLine? number (ofRaw before raw)).map Inclusion.outlined =
      (ofLine? number (ofRaw otherBefore otherRaw)).map Inclusion.outlined := by
  cases hash : (Text.trimLeft (ofRaw before raw).code).head? == some '#' with
  | false =>
    have hashToo := hash
    rw [same.code] at hashToo
    rw [ofLine?_eq_none hash, ofLine?_eq_none hashToo]
  | true =>
    have code : (ofRaw before raw).hasCode := by
      have shown : '#' ∈ (ofRaw before raw).code :=
        (List.dropWhile_suffix Text.isBlank).subset (List.mem_of_head? (beq_iff_eq.mp hash))
      exact List.any_eq_true.mpr ⟨'#', shown, by decide⟩
    have fits := fits_eq same clear clearToo code
    unfold ofLine?
    rw [raw_ofRaw, raw_ofRaw, ← same.code]
    cases found? : Lexicon.inclusion.matchStart? raw with
    | none =>
      have unfit : Lexicon.inclusion.matchStart? otherRaw = none := by
        rw [Pattern.fits, found?] at fits
        exact Option.isNone_iff_eq_none.mp (Option.isSome_eq_false_iff.mp fits.symm)
      rw [unfit]
      rfl
    | some found =>
      obtain ⟨otherFound, fitsToo, target⟩ := exists_found same code clear found?
      have outline : ∀ {raw : List Char}, Lexicon.inclusion.fits raw →
          raw.takeWhile (· != '#') = raw.takeWhile Text.isBlank :=
        fun fits => takeWhile_hash (head?_of_inclusion fits)
      have lead : raw.takeWhile (· != '#') = otherRaw.takeWhile (· != '#') := by
        rw [outline (Option.isSome_of_eq_some found?), outline (Option.isSome_of_eq_some fitsToo),
          margin]
      rw [fitsToo]
      simp only [Option.bind_eq_bind, Option.bind_some, target, hash, if_true]
      cases found.part? .target with
      | none => rfl
      | some target => simp [Inclusion.outlined, lead, same.length_eq]

omit clear clearToo

/-- What protects a header is read off the other line as well, where the line starts in code. -/
theorem reading_of_code (code : before = .code) {guard : List Char} (noSlash : '/' ∉ guard)
    {reading : List Char → Bool} (member : reading ∈ readings guard) (read : reading raw) :
    reading otherRaw := by
  -- a line without a slash is the other line, and the end of a guard is a start without a slash
  have whole : '/' ∉ raw → reading otherRaw := by
    intro noSlash
    have starts := same.isPrefix_of_noSlash code (List.prefix_refl raw) noSlash
    rwa [← starts.eq_of_length same.length_eq]
  have squeezed : ∀ word, '/' ∉ word → Text.squeeze raw = word → '/' ∉ raw := by
    rintro _ noSlash rfl inside
    exact noSlash (Text.mem_squeeze (by decide) inside)
  simp only [readings, List.mem_cons, List.not_mem_nil, or_false] at member
  rcases member with rfl | rfl | rfl | rfl
  · exact whole (squeezed _ (by simpa using noSlash) (beq_iff_eq.mp read))
  · exact whole (squeezed _ (by simpa using noSlash) (beq_iff_eq.mp read))
  · rw [isPrefixOf_squeeze_iff] at read ⊢
    have blanks : ∀ c ∈ raw.takeWhile Text.isBlank, Text.isBlank c :=
      fun c => Text.isBlank_of_mem_takeWhile
    have starts : raw.takeWhile Text.isBlank ++ "#endif".toList <+: raw := by
      have inside := (List.prefix_append_right_inj (raw.takeWhile Text.isBlank)).mpr read
      rwa [Text.trimLeft, List.takeWhile_append_dropWhile] at inside
    have noSlash : '/' ∉ raw.takeWhile Text.isBlank ++ "#endif".toList := by
      rw [List.mem_append, not_or]
      exact ⟨fun inside => absurd (blanks '/' inside) (by decide), by decide⟩
    obtain ⟨rest, split⟩ := same.isPrefix_of_noSlash code starts noSlash
    rw [← split, List.append_assoc, Text.trimLeft, List.dropWhile_append_of_pos blanks]
    exact List.prefix_append _ rest
  · apply whole
    obtain ⟨stop, reached⟩ := Pattern.fits_iff.mp read
    rw [pragmaOnce, Pattern.mem_outcomes_append] at reached
    obtain ⟨last, reached, ends⟩ := reached
    obtain ⟨consumed, split, -, avoided⟩ :=
      Pattern.reachesWithout_of_mem_outcomes (show Pattern.avoids '/' _ by decide) reached
    have ending : last.rest = [] ∨ last.rest = ['\n'] := by
      simpa [Pattern.atEnd] using (Pattern.mem_outcomes_look.mp ends).1
    rw [show raw = consumed ++ last.rest from split, List.mem_append, not_or]
    refine ⟨avoided, ?_⟩
    rcases ending with nothing | lineFeed
    · rw [nothing]
      exact List.not_mem_nil
    · rw [lineFeed]
      decide

theorem reading_eq {guard : List Char} (noSlash : '/' ∉ guard)
    (code : before = .block → protects guard raw = false)
    (codeToo : otherBefore = .block → protects guard otherRaw = false) :
    ∀ reading ∈ readings guard, reading raw = reading otherRaw := by
  intro reading member
  have unread : ∀ {raw : List Char}, protects guard raw = false → reading raw = false := by
    intro raw unprotected
    rw [protects, List.any_eq_false] at unprotected
    exact Bool.eq_false_iff.mpr (unprotected reading member)
  have started : before = otherBefore := same.before
  cases before with
  | block => rw [unread (code rfl), unread (codeToo started.symm)]
  | code =>
    rw [Bool.eq_iff_iff]
    exact ⟨reading_of_code same rfl noSlash member,
      reading_of_code same.symm started.symm noSlash member⟩

end Pair

/-! ## Whole files -/

/-- No name of a guard holds a slash. -/
theorem noSlash_guardName (stem : List Char) : '/' ∉ guardName stem := by
  have letters : ∀ c : Char, (if c.isAlphanum then c.toUpper else '_') ≠ '/' := by
    intro c
    split
    next alphanumeric =>
      unfold Char.toUpper
      split
      next lower =>
        intro same
        have value := congrArg UInt32.toNat (congrArg Char.val same)
        have least := UInt32.le_iff_toNat_le.mp lower.1
        have most := UInt32.le_iff_toNat_le.mp lower.2
        simp at value least most
        omega
      next =>
        rintro rfl
        exact absurd alphanumeric (by decide)
    next => decide
  rw [guardName, List.mem_append, not_or]
  refine ⟨?_, by decide⟩
  intro member
  obtain ⟨c, -, same⟩ := List.mem_map.mp member
  exact letters c same

theorem hasGuard_eq (guard : List Char) (raws : List (List Char)) :
    hasGuard guard raws =
      (raws.any (fun raw => Text.squeeze raw == "#ifndef ".toList ++ guard) &&
        raws.any (fun raw => Text.squeeze raw == "#define ".toList ++ guard) &&
        raws.any fun raw => "#endif".toList.isPrefixOf (Text.squeeze raw)) := by
  have contains : ∀ word, (raws.map Text.squeeze).contains word =
      raws.any fun raw => Text.squeeze raw == word := by
    intro word
    rw [List.contains_eq_any_beq, List.any_map]
    congr 1
    funext raw
    exact Bool.beq_comm
  rw [hasGuard, contains, contains, List.any_map]
  rfl

/-- What protects a header is settled by the readings of its lines and by their lengths. -/
theorem guardDiagnostics_of_readings {path : Path} {text other : List Char}
    (lengths : (Source.splitLines text).map List.length = (Source.splitLines other).map List.length)
    (same : ∀ reading ∈ readings (guardName path.stem.toList),
      (Source.splitLines text).map reading = (Source.splitLines other).map reading) :
    guardDiagnostics (.ofText path text) = guardDiagnostics (.ofText path other) := by
  have any : ∀ reading ∈ readings (guardName path.stem.toList),
      (Source.splitLines text).any reading = (Source.splitLines other).any reading := by
    intro reading member
    have whole := congrArg (List.any · id) (same reading member)
    rwa [List.any_map, List.any_map] at whole
  have guard : hasGuard (guardName path.stem.toList) (Source.splitLines text) =
      hasGuard (guardName path.stem.toList) (Source.splitLines other) := by
    rw [hasGuard_eq, hasGuard_eq, any _ (by simp [readings]), any _ (by simp [readings]),
      any _ (by simp [readings])]
  have pragma : (Source.splitLines text).findIdx? (fun raw => pragmaOnce.fits raw) =
      (Source.splitLines other).findIdx? fun raw => pragmaOnce.fits raw := by
    have whole := congrArg (List.findIdx? id) (same (fun raw => pragmaOnce.fits raw)
      (by simp [readings]))
    rwa [List.findIdx?_map, List.findIdx?_map] at whole
  have length : ∀ index : Nat, ((Source.splitLines text)[index]?.getD []).length =
      ((Source.splitLines other)[index]?.getD []).length := by
    have at? : ∀ (raws : List (List Char)) (index : Nat),
        (raws[index]?.getD []).length = (raws.map List.length)[index]?.getD 0 := by
      intro raws index
      rw [List.getElem?_map]
      cases raws[index]? <;> rfl
    intro index
    rw [at?, at?, lengths]
  unfold guardDiagnostics SourceFile.ofText
  simp only [guard, pragma, length]

theorem fromLines_outlined {lines others : List Line}
    (same : List.Forall₂ (fun line other => ∀ number,
      (ofLine? number line).map Inclusion.outlined =
        (ofLine? number other).map Inclusion.outlined) lines others) (number : Nat) :
    (fromLines number lines).map Inclusion.outlined =
      (fromLines number others).map Inclusion.outlined := by
  induction same generalizing number with
  | nil => rfl
  | cons first _ inductionHypothesis =>
    have here := congrArg Option.toList (first number)
    rw [Option.toList_map, Option.toList_map] at here
    rw [fromLines, fromLines, List.map_append, List.map_append, here, inductionHypothesis]

end Includes

end HouseStyle
