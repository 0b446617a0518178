import BasicWorkbench.Proofs.BlockEvents
import BasicWorkbench.Proofs.HintedReports
import BasicWorkbench.Proofs.TrimmedLines

namespace BasicWorkbench

/-- Behind blanks a line starts with the letters of the keyword If in either case, and goes on with the rest. -/
def StartsWithIf (line rest : Text) : Prop :=
  ∃ indent spelled, line = indent ++ (spelled ++ rest) ∧ (∀ c ∈ indent, isBlank c = true) ∧
    asciiLower spelled = "if"

def MentionsThen (line : Text) : Prop := ∃ spelled, spelled <:+: line ∧ asciiLower spelled = "then"

theorem map_foldChar_of_asciiLower {v w : Text} (spelled : asciiLower v = w) (small : w.map foldChar = w) :
    v.map foldChar = w := by
  have blind : (asciiLower v).map foldChar = v.map foldChar := by
    rw [asciiLower, List.map_map]
    exact List.map_congr_left fun c _ => caseBlind_foldChar c
  rw [← blind, spelled, small]

/-- The word test of the block check knows the keyword in these letters too. -/
theorem StartsWithIf.firstWord {line rest : Text} (starts : StartsWithIf line rest) :
    ∃ indent spelled, FirstWord (asciiLower BlockKind.conditional.opener) line indent spelled rest ∧
      asciiLower spelled = "if" := by
  obtain ⟨indent, spelled, parts, blank, letters⟩ := starts
  exact ⟨indent, spelled, ⟨parts, blank, map_foldChar_of_asciiLower letters (by decide)⟩, letters⟩

theorem startsWithIf_iff {line rest : Text} :
    StartsWithIf line rest ↔ ∃ spelled, trimStart line = spelled ++ rest ∧ asciiLower spelled = "if" := by
  constructor
  · intro starts
    obtain ⟨indent, spelled, first, letters⟩ := starts.firstWord
    exact ⟨spelled, first.trimStart_eq (by decide) (by decide), letters⟩
  · rintro ⟨spelled, parts, letters⟩
    obtain ⟨indent, whole, blank⟩ := exists_indent line
    exact ⟨indent, spelled, by rwa [← parts], blank, letters⟩

theorem lacksThen_trim_iff {line : Text} :
    lacksThen (trim line) = true ↔ (∃ rest, StartsWithIf line rest) ∧ ¬MentionsThen line := by
  have solidIf : ∀ c ∈ "if".toList, isBlank c = false := forall_mem_of_all (by decide)
  have solidThen : ∀ c ∈ "then".toList, isBlank c = false := forall_mem_of_all (by decide)
  have starts : "if".toList <+: asciiLower (trim line) ↔ ∃ rest, StartsWithIf line rest := by
    rw [← trim_asciiLower, prefix_trim_iff solidIf, trimStart_asciiLower, prefix_asciiLower_iff, exists_comm]
    exact exists_congr fun rest => startsWithIf_iff.symm
  have mentions : "then".toList <:+: asciiLower (trim line) ↔ MentionsThen line := by
    rw [← trim_asciiLower, infix_trim_iff solidThen (by decide)]
    exact infix_asciiLower_iff
  rw [lacksThen, Bool.and_eq_true, List.isPrefixOf_iff_prefix, starts, Bool.not_eq_true', ← Bool.not_eq_true,
    occursIn_iff, mentions]

/-- Where a line starts with these letters, it opens an If block exactly if they are a whole word. -/
theorem StartsWithIf.opener_iff {line rest : Text} (starts : StartsWithIf line rest) (number : Nat) :
    (openerOn? .conditional number line).isSome = true ↔ EndsWord rest := by
  have nonempty := (BlockEvent.opening .conditional).keyword_ne_nil
  have solid := (BlockEvent.opening .conditional).keyword_solid
  obtain ⟨indent, spelled, first, _⟩ := starts.firstWord
  rw [openerOn?_isSome_iff]
  constructor
  · rintro ⟨indent', spelled', rest', first', ends⟩
    have found := (dropWord?_trimStart_iff nonempty solid).mpr ⟨indent, spelled, first⟩
    have found' := (dropWord?_trimStart_iff nonempty solid).mpr ⟨indent', spelled', first'⟩
    obtain rfl : rest = rest' := Option.some.inj (found.symm.trans found')
    exact ends
  · intro ends
    exact ⟨indent, spelled, rest, first, ends⟩

/-- Behind problems a Then is missed on openers of If blocks only, unless one of the problems has no place and some
line starts with a longer word that has the letters of If in front, and mentions no Then. -/
theorem then_missed_on_openers_iff (problems : List Problem) (lines : List Text) :
    (∀ number, missingThen number ∈ addedHints problems lines →
        ∃ n line, number = n + 1 ∧ lines[n]? = some line ∧ (openerOn? .conditional n line).isSome = true) ↔
      (∀ p ∈ problems, p.place ≠ none) ∨
        ∀ line ∈ lines, ∀ rest, StartsWithIf line rest → ¬EndsWord rest → MentionsThen line := by
  simp only [mem_addedHints, missingThen_mem_sourceHints, lacksThen_trim_iff]
  constructor
  · intro openers
    by_contra wrong
    obtain ⟨unplaced, wrong⟩ := not_or.mp wrong
    apply wrong
    intro line listed rest starts longer
    by_contra silent
    obtain ⟨n, there⟩ := List.mem_iff_getElem?.mp listed
    have unplaced' : ∃ p ∈ problems, p.place = none := by simpa using unplaced
    obtain ⟨n', line', same, there', opener⟩ :=
      openers (n + 1) ⟨unplaced', n, line, there, ⟨⟨rest, starts⟩, silent⟩, rfl⟩
    obtain rfl : n = n' := by omega
    obtain rfl : line = line' := Option.some.inj (there.symm.trans there')
    exact longer ((starts.opener_iff n).mp opener)
  · rintro told number ⟨⟨p, listed, nowhere⟩, n, line, there, ⟨⟨rest, starts⟩, silent⟩, same⟩
    refine ⟨n, line, same, there, (starts.opener_iff n).mpr ?_⟩
    by_contra longer
    rcases told with placed | told
    · exact placed p listed nowhere
    · exact silent (told line (List.mem_of_getElem? there) rest starts longer)

/-- An assignment to a name that begins with the letters of the keyword. -/
theorem then_missed_on_longer_name :
    let problems : List Problem := [.unplaced "boom"]
    let lines : List Text := ["If x", "iffy = 1"]
    addedHints problems lines = [missingThen 1, missingThen 2] ∧
      ¬∀ number, missingThen number ∈ addedHints problems lines →
        ∃ n line, number = n + 1 ∧ lines[n]? = some line ∧ (openerOn? .conditional n line).isSome = true := by
  intro problems lines
  refine ⟨by rfl, fun openers => ?_⟩
  have starts : StartsWithIf "iffy = 1" "fy = 1" := ⟨[], "if", by decide, by simp, by decide⟩
  have longer : ¬EndsWord "fy = 1" := by
    intro ends
    exact absurd (ends 'f' rfl) (by decide)
  rcases (then_missed_on_openers_iff problems lines).mp openers with placed | told
  · exact placed _ List.mem_cons_self rfl
  · have mentioned : MentionsThen "iffy = 1" := told "iffy = 1" (by decide) "fy = 1" starts longer
    have found : occursIn "then" (asciiLower "iffy = 1") = true :=
      occursIn_iff.mpr (infix_asciiLower_iff.mpr mentioned)
    exact absurd found (by decide)

end BasicWorkbench
