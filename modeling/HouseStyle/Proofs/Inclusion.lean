import HouseStyle.Proofs.Directive

/-!
Contract: how an inclusion is written.

Owns: the directive up to the target of an inclusion, the target, and the uniqueness of both.
Does not own: the order of inclusions.

The match of an inclusion could in principle backtrack, but every piece of it ends where a character
stands that the piece cannot consume. So a line is an inclusion in one way at most, and what follows
the target does not matter.

Main statement: `matchStart?_of_isPrefix`.
-/

namespace HouseStyle.Includes

open Lexicon

/-- The directive of an inclusion, up to its target. -/
def Lead (piece : List Char) : Prop :=
  ∃ opening space, Opening "include" opening ∧ (∀ c ∈ space, Text.isBlank c) ∧
    piece = opening ++ space

/-- The target of an inclusion, with its brackets or quotes. -/
def Target (piece : List Char) : Prop :=
  ∃ opener body closer, opener ∈ ['<', '"'] ∧ body ≠ [] ∧ (∀ c ∈ body, c ∉ ['>', '"']) ∧
    closer ∈ ['>', '"'] ∧ piece = opener :: (body ++ [closer])

theorem consumes_lead (text : List Char) :
    (directive "include" ++ .blanks).Consumes Lead (.atStart text) :=
  (consumes_directive "include" text).append fun _ => Pattern.consumes_many _ _

theorem consumes_target (start : Cursor) :
    (.anyOf ['<', '"'] ++ .severalBut ['>', '"'] ++ .anyOf ['>', '"'] : Pattern).Consumes Target
      start := by
  refine Pattern.Consumes.of_iff
    (((Pattern.consumes_one _ start).append fun _ => (Pattern.consumes_one _ _).append
      fun _ => Pattern.consumes_many _ _).append fun _ => Pattern.consumes_one _ _) ?_
  have bodies : ∀ c, (!(['>', '"'].contains c)) = true ↔ c ∉ ['>', '"'] := by simp
  intro piece
  simp only [bodies, List.contains_iff_mem]
  constructor
  · rintro ⟨_, _, ⟨_, _, ⟨opener, opens, rfl⟩, ⟨_, body, ⟨first, begins, rfl⟩, others, rfl⟩, rfl⟩,
      ⟨closer, closes, rfl⟩, rfl⟩
    exact ⟨opener, first :: body, closer, opens, List.cons_ne_nil _ _,
      List.forall_mem_cons.mpr ⟨begins, others⟩, closes, rfl⟩
  · rintro ⟨opener, body, closer, opens, some, bodies, closes, rfl⟩
    obtain ⟨first, body, rfl⟩ := List.exists_cons_of_ne_nil some
    obtain ⟨begins, others⟩ := List.forall_mem_cons.mp bodies
    exact ⟨_, _, ⟨_, _, ⟨opener, opens, rfl⟩, ⟨_, body, ⟨first, begins, rfl⟩, others, rfl⟩, rfl⟩,
      ⟨closer, closes, rfl⟩, rfl⟩

/-- A match of an inclusion is a directive with a target, which the match records. -/
theorem exists_written_of_inclusion {text : List Char} {found : Match}
    (fits : inclusion.matchStart? text = some found) :
    ∃ lead target rest, Lead lead ∧ Target target ∧ text = lead ++ (target ++ rest) ∧
      found.part? .target = some ⟨lead.length, target⟩ ∧
        found.stop = lead.length + target.length := by
  obtain ⟨stop, reached, rfl⟩ := Pattern.exists_of_matchAt? fits
  rw [inclusion, Pattern.mem_outcomes_append] at reached
  obtain ⟨_, led, captured⟩ := reached
  obtain ⟨_, targeted, rfl⟩ := Pattern.mem_outcomes_capture.mp captured
  obtain ⟨lead, afterLead, isLead, split, rfl⟩ := (consumes_lead text _).mp led
  obtain ⟨target, rest, isTarget, splitLater, rfl⟩ := (consumes_target _ _).mp targeted
  have whole : text = lead ++ (target ++ rest) := by
    rw [← show afterLead = target ++ rest from splitLater]
    exact split
  refine ⟨lead, target, rest, isLead, isTarget, whole, ?_, ?_⟩
  · rw [Cursor.part?_matched]
    simp [Cursor.record, Cursor.after, Cursor.atStart, Cursor.excerpt, whole]
  · simp [Cursor.matched, Match.stop, Excerpt.stop, Cursor.record, Cursor.after, Cursor.atStart,
      Cursor.excerpt, whole]

theorem fits_of_written {lead target : List Char} (isLead : Lead lead) (isTarget : Target target)
    (rest : List Char) : inclusion.fits (lead ++ (target ++ rest)) := by
  have led := (consumes_lead (lead ++ (target ++ rest))).mem_outcomes isLead rfl
  have targeted := (consumes_target ((Cursor.atStart (lead ++ (target ++ rest))).after lead
    (target ++ rest))).mem_outcomes isTarget rfl
  exact Pattern.fits_iff.mpr ⟨_, Pattern.mem_outcomes_append.mpr
    ⟨_, led, Pattern.mem_outcomes_capture.mpr ⟨_, targeted, rfl⟩⟩⟩

/-! ## One way at most -/

/-- A stretch of characters of a kind ends where the first of another kind stands. -/
theorem append_cons_inj {test : Char → Bool} {first second rest others : List Char} {c d : Char}
    (all : ∀ e ∈ first, test e) (allToo : ∀ e ∈ second, test e) (ends : test c = false)
    (endsToo : test d = false) (same : first ++ c :: rest = second ++ d :: others) :
    first = second ∧ c = d ∧ rest = others := by
  induction first generalizing second with
  | nil =>
    cases second with
    | nil => exact ⟨rfl, List.cons.inj same⟩
    | cons e second =>
      rw [← (List.cons.inj same).1, List.forall_mem_cons, ends] at allToo
      exact nomatch allToo.1
  | cons e first inductionHypothesis =>
    cases second with
    | nil =>
      rw [(List.cons.inj same).1, List.forall_mem_cons, endsToo] at all
      exact nomatch all.1
    | cons f second =>
      obtain ⟨rfl, others⟩ := List.cons.inj same
      obtain ⟨rfl, later⟩ := inductionHypothesis (List.forall_mem_cons.mp all).2
        (List.forall_mem_cons.mp allToo).2 others
      exact ⟨rfl, later⟩

theorem written_unique {lead otherLead target otherTarget rest others : List Char}
    (isLead : Lead lead) (isLeadToo : Lead otherLead) (isTarget : Target target)
    (isTargetToo : Target otherTarget)
    (same : lead ++ (target ++ rest) = otherLead ++ (otherTarget ++ others)) :
    lead = otherLead ∧ target = otherTarget := by
  obtain ⟨_, space, ⟨margin, gap, margins, gaps, rfl⟩, spaces, rfl⟩ := isLead
  obtain ⟨_, spaceToo, ⟨marginToo, gapToo, marginsToo, gapsToo, rfl⟩, spacesToo, rfl⟩ := isLeadToo
  obtain ⟨opener, body, closer, opens, -, bodies, closes, rfl⟩ := isTarget
  obtain ⟨openerToo, bodyToo, closerToo, opensToo, -, bodiesToo, closesToo, rfl⟩ := isTargetToo
  have word : "include".toList = 'i' :: "nclude".toList := rfl
  simp only [List.append_assoc, List.cons_append, word] at same
  obtain ⟨rfl, -, afterHash⟩ := append_cons_inj margins marginsToo (by decide) (by decide) same
  obtain ⟨rfl, -, afterWord⟩ := append_cons_inj gaps gapsToo (by decide) (by decide) afterHash
  have ink : ∀ c ∈ ['<', '"'], Text.isBlank c = false :=
    List.forall_mem_cons.mpr ⟨by decide, List.forall_mem_singleton.mpr (by decide)⟩
  obtain ⟨rfl, rfl, afterOpener⟩ := append_cons_inj spaces spacesToo (ink opener opens)
    (ink openerToo opensToo) (List.append_cancel_left afterWord)
  have outside : ∀ {c : Char}, c ∉ ['>', '"'] → decide (c ∉ ['>', '"']) = true := decide_eq_true
  have inside : ∀ {c : Char}, c ∈ ['>', '"'] → decide (c ∉ ['>', '"']) = false :=
    fun member => decide_eq_false (not_not_intro member)
  obtain ⟨rfl, rfl, -⟩ := append_cons_inj (fun c member => outside (bodies c member))
    (fun c member => outside (bodiesToo c member)) (inside closes) (inside closesToo) afterOpener
  exact ⟨rfl, rfl⟩

/-- A text that goes on like an inclusion up to the end of its target holds the same inclusion. -/
theorem matchStart?_of_isPrefix {text other : List Char} {found : Match}
    (fits : inclusion.matchStart? text = some found) (starts : text.take found.stop <+: other) :
    ∃ otherFound, inclusion.matchStart? other = some otherFound ∧
      otherFound.part? .target = found.part? .target ∧ otherFound.stop = found.stop := by
  obtain ⟨lead, target, rest, isLead, isTarget, rfl, recorded, stops⟩ :=
    exists_written_of_inclusion fits
  have start : (lead ++ (target ++ rest)).take found.stop = lead ++ target := by
    rw [stops, ← List.append_assoc, ← List.length_append, List.take_left]
  rw [start] at starts
  obtain ⟨others, rfl⟩ := starts
  rw [List.append_assoc] at *
  obtain ⟨otherFound, fitsToo⟩ :=
    Option.isSome_iff_exists.mp (fits_of_written isLead isTarget others)
  obtain ⟨leadToo, targetToo, _, isLeadToo, isTargetToo, whole, recordedToo, stopsToo⟩ :=
    exists_written_of_inclusion fitsToo
  obtain ⟨rfl, rfl⟩ := written_unique isLead isLeadToo isTarget isTargetToo whole
  exact ⟨otherFound, fitsToo, recordedToo.trans recorded.symm, stopsToo.trans stops.symm⟩

end HouseStyle.Includes
