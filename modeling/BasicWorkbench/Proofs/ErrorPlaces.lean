import BasicWorkbench.Proofs.MessageCuts

namespace BasicWorkbench

def upToLine? (told : Text) : Option Sighting :=
  (restsAfter inLine told).findSome? fun rest => do
    let (line, after) ← atLine? rest
    some ⟨before told rest, some line, columnNote? after⟩

def toldBehind? (s : Text) : Option Sighting := (restsAfter isBlank s).reverse.findSome? upToLine?

theorem errorAtLine?_eq_leftmost :
    errorAtLine? = leftmost fun s => (dropWord? "error:" s).bind toldBehind? := by
  rfl

def afterError? : Text → Option Text :=
  leftmost fun s => (dropWord? "error:" s).filter fun u => (dropBlanks? u).isSome

/-- The text starts with three blanks or more and the mention of a line, and mentions no line behind that. -/
structure IsBareMention (s : Text) : Prop where
  blanks : 3 ≤ (s.takeWhile isBlank).length
  read : (atLine? s).isSome = true
  silent : ¬MentionsLine (trimStart s)

def TellsNothing (line : Text) : Prop := ∃ s ∈ afterError? line, IsBareMention s

/-- One blank that is no separator of lines. -/
def IsLoneBlank (s : Text) : Prop := ∃ b, isBlank b = true ∧ isSeparator b = false ∧ s = [b]

theorem upToLine?_eq_some {told : Text} {sighting : Sighting} (h : upToLine? told = some sighting) :
    ∃ rest, told = sighting.message ++ rest ∧ sighting.message ≠ [] ∧ (atLine? rest).isSome = true ∧
      ∀ u t, u ≠ [] → t ≠ [] → sighting.message = u ++ t → atLine? (t ++ rest) = none := by
  obtain ⟨front, rest, rfl, nonempty, found, unseen⟩ := findSome?_restsAfter_eq_some h
  obtain ⟨read, placed, found⟩ := Option.bind_eq_some_iff.mp found
  obtain rfl := Option.some.inj found
  simp only [before_append]
  refine ⟨rest, rfl, nonempty, Option.isSome_of_mem placed, fun u t hu ht same => ?_⟩
  have missed := unseen u t hu ht same
  cases placed' : atLine? (t ++ rest) with
  | none => rfl
  | some read' => simp [placed'] at missed

/-- An error with its line is told behind "Error:" and blanks, as far as the line is mentioned. -/
theorem errorAtLine?_eq_some {s : Text} {sighting : Sighting} (h : errorAtLine? s = some sighting) :
    ∃ front spelled gap rest, s = front ++ (spelled ++ (gap ++ (sighting.message ++ rest))) ∧
      spelled.map foldChar = "error:".toList ∧ IsGap gap := by
  rw [errorAtLine?_eq_leftmost] at h
  obtain ⟨t, start, found⟩ := exists_suffix_of_leftmost h
  obtain ⟨u, word, behind⟩ := Option.bind_eq_some_iff.mp found
  obtain ⟨spelled, rfl, spelling⟩ := dropWord?_eq_some_iff.mp word
  obtain ⟨gap, told, rfl, apart, blank, read, _⟩ := findSome?_reverse_restsAfter_eq_some behind
  obtain ⟨rest, rfl, _⟩ := upToLine?_eq_some read
  obtain ⟨front, rfl⟩ := start
  exact ⟨front, spelled, gap, rest, rfl, spelling, apart, blank⟩

theorem upToLine?_isSome {front rest : Text} (nonempty : front ≠ []) (inside : ∀ c ∈ front, inLine c = true)
    (read : (atLine? rest).isSome = true) : (upToLine? (front ++ rest)).isSome = true := by
  obtain ⟨found, placed⟩ := Option.isSome_iff_exists.mp read
  rw [upToLine?, List.findSome?_isSome_iff]
  exact ⟨rest, mem_restsAfter.mpr ⟨front, nonempty, rfl, inside⟩, by simp [placed]⟩

/-- Behind its blanks, a text tells of a line exactly if it mentions one. -/
theorem upToLine?_isSome_iff {s : Text} (start : trimStart s = s) (inside : ∀ c ∈ s, inLine c = true) :
    (upToLine? s).isSome = true ↔ MentionsLine s := by
  constructor
  · intro found
    obtain ⟨sighting, found⟩ := Option.isSome_iff_exists.mp found
    obtain ⟨rest, same, _, read, _⟩ := upToLine?_eq_some found
    exact .of_suffix read ⟨sighting.message, same.symm⟩
  · intro mentions
    obtain ⟨t, ht, read⟩ := mentionsLine_iff.mp mentions
    obtain ⟨front, rfl⟩ := (List.mem_tails t s).mp ht
    refine upToLine?_isSome ?_ (fun c hc => inside c (List.mem_append_left t hc)) read
    rintro rfl
    obtain ⟨r, skipped⟩ := Option.isSome_iff_exists.mp (dropBlanks?_isSome_of_atLine read)
    obtain ⟨gap, given, blank, rfl, start'⟩ := dropBlanks?_eq_some_iff.mp skipped
    rw [List.nil_append, trimStart_of_blanks blank, start'] at start
    exact given (List.self_eq_append_left.mp start)

/-- Where no line is mentioned behind the blanks, it is the first of these that is told. -/
theorem upToLine?_of_silent {gap s : Text} {sighting : Sighting} (blank : ∀ c ∈ gap, isBlank c = true)
    (silent : ¬MentionsLine s) (found : upToLine? (gap ++ s) = some sighting) :
    ∃ b gap', gap = b :: gap' ∧ gap' ≠ [] ∧ sighting.message = [b] ∧ (atLine? (gap' ++ s)).isSome = true := by
  obtain ⟨rest, same, nonempty, read, least⟩ := upToLine?_eq_some found
  rcases List.append_eq_append_iff.mp same with ⟨t, _, behind⟩ | ⟨gap', rfl, rfl⟩
  · exact absurd (.of_suffix read ⟨t, behind.symm⟩) silent
  · obtain ⟨b, m, told⟩ := List.exists_cons_of_ne_nil nonempty
    rw [told] at blank least ⊢
    cases m with
    | nil =>
      refine ⟨b, gap', rfl, ?_, rfl, read⟩
      rintro rfl
      exact silent (.of_suffix read List.suffix_rfl)
    | cons c m =>
      have missed := least [b] (c :: m) (by simp) (by simp) rfl
      have blank' : ∀ d ∈ c :: m, isBlank d = true := fun d hd =>
        blank d (List.mem_append_left gap' (List.mem_cons_of_mem b hd))
      rw [← atLine?_behind_blanks blank' (dropBlanks?_isSome_of_atLine read), missed] at read
      contradiction

section Lines

variable {line : Text} (fills : FillsLine line)

include fills

/-- What is told up to a line has no blanks at its end, for else it would have ended in front of these. -/
theorem FillsLine.of_upToLine {told : Text} {sighting : Sighting} (within : told <:+ line)
    (start : trimStart told = told) (found : upToLine? told = some sighting) : FillsLine sighting.message := by
  obtain ⟨rest, rfl, nonempty, read, least⟩ := upToLine?_eq_some found
  have head := trimStart_eq_self_iff.mp start
  refine ⟨nonempty, trim_eq_self_iff.mpr ⟨fun c hc => ?_, fun c hc => ?_⟩, fun c hc => ?_⟩
  · exact head c (by rw [List.head?_append, hc]; rfl)
  · obtain ⟨u, same⟩ := List.getLast?_eq_some_iff.mp hc
    rw [← Bool.not_eq_true]
    intro blank
    cases u with
    | nil => simp [same, blank] at head
    | cons d u =>
      have missed := least (d :: u) [c] (by simp) (by simp) same
      have single : ∀ d ∈ [c], isBlank d = true := by simpa using blank
      rw [← atLine?_behind_blanks single (dropBlanks?_isSome_of_atLine read), missed] at read
      contradiction
  · exact fills.unbroken c (within.subset (List.mem_append_left rest hc))

/-- What is told behind blanks up to a line fills its place, unless nothing but the mention stands there: then it
is one of the blanks. -/
theorem FillsLine.toldBehind_cases {s : Text} {sighting : Sighting} (within : s <:+ line)
    (found : toldBehind? s = some sighting) :
    (MentionsLine (trimStart s) ∧ FillsLine sighting.message) ∨ (IsBareMention s ∧ IsLoneBlank sighting.message) := by
  obtain ⟨front, told, rfl, apart, blank, found, shorter⟩ := findSome?_reverse_restsAfter_eq_some found
  have told' : told <:+ line := (List.suffix_append front told).trans within
  obtain ⟨gap, v, rfl, blank', start⟩ := exists_leading_blanks told
  have all : ∀ c ∈ front ++ gap, isBlank c = true := fun c hc => (List.mem_append.mp hc).elim (blank c) (blank' c)
  rw [← List.append_assoc]
  cases gap with
  | nil =>
    obtain ⟨rest, same, _, read, _⟩ := upToLine?_eq_some found
    rw [(leading_blanks_append all start).2]
    exact .inl ⟨.of_suffix read ⟨_, same.symm⟩, fills.of_upToLine told' start found⟩
  | cons b gap =>
    have inside : ∀ c ∈ v, inLine c = true := fun c hc =>
      fills.isMessage.inside c (told'.subset (List.mem_append_right (b :: gap) hc))
    have silent : ¬MentionsLine v := by
      rw [← upToLine?_isSome_iff start inside, shorter (b :: gap) v (by simp) blank' rfl]
      exact Bool.false_ne_true
    obtain ⟨_, _, same, apart', single, read⟩ := upToLine?_of_silent blank' silent found
    obtain ⟨rfl, rfl⟩ := List.cons.inj same
    have longer : 3 ≤ (front ++ b :: gap).length := by
      have positive := List.length_pos_iff.mpr apart
      have positive' := List.length_pos_iff.mpr apart'
      rw [List.length_append, List.length_cons]
      omega
    have fewer : IsGap gap := ⟨apart', fun c hc => blank' c (List.mem_cons_of_mem b hc)⟩
    rw [atLine?_behind_gap fewer ⟨by simp, all⟩] at read
    obtain ⟨run, rest⟩ := leading_blanks_append all start
    have bare : IsBareMention (front ++ b :: gap ++ v) := ⟨by rwa [run], read, by rwa [rest]⟩
    exact .inr ⟨bare, b, blank' b List.mem_cons_self, fills.unbroken b (told'.subset (by simp)), single⟩

end Lines

theorem toldBehind?_isSome {front told : Text} (apart : IsGap front) (found : (upToLine? told).isSome = true) :
    (toldBehind? (front ++ told)).isSome = true := by
  rw [toldBehind?, List.findSome?_isSome_iff]
  exact ⟨told, List.mem_reverse.mpr (mem_restsAfter.mpr ⟨front, apart.nonempty, rfl, apart.blank⟩), found⟩

theorem dropBlanks?_isSome_of_toldBehind {s : Text} (found : (toldBehind? s).isSome = true) :
    (dropBlanks? s).isSome = true := by
  obtain ⟨sighting, found⟩ := Option.isSome_iff_exists.mp found
  obtain ⟨front, told, rfl, apart, blank, _⟩ := findSome?_reverse_restsAfter_eq_some found
  obtain ⟨b, front, rfl⟩ := List.exists_cons_of_ne_nil apart
  simp [dropBlanks?, blank b List.mem_cons_self]

theorem toldBehind?_of_mention {s : Text} (starts : (dropBlanks? s).isSome = true) (inside : ∀ c ∈ s, inLine c = true)
    (mentions : MentionsLine (trimStart s)) : (toldBehind? s).isSome = true := by
  obtain ⟨r, skipped⟩ := Option.isSome_iff_exists.mp starts
  obtain ⟨gap, given, blank, rfl, start⟩ := dropBlanks?_eq_some_iff.mp skipped
  rw [trimStart_of_blanks blank, start] at mentions
  have inside' : ∀ c ∈ r, inLine c = true := fun c hc => inside c (List.mem_append_right gap hc)
  exact toldBehind?_isSome ⟨given, blank⟩ ((upToLine?_isSome_iff start inside').mpr mentions)

/-- Of three blanks the first is passed over, the second is told and the third stands in front of the mention. -/
theorem IsBareMention.toldBehind?_isSome {s : Text} (bare : IsBareMention s) (inside : ∀ c ∈ s, inLine c = true) :
    (toldBehind? s).isSome = true := by
  obtain ⟨blanks, read, _⟩ := bare
  obtain ⟨gap, v, rfl, blank, start⟩ := exists_leading_blanks s
  rw [(leading_blanks_append blank start).1] at blanks
  obtain ⟨b, c, gap, rfl⟩ : ∃ b c gap', gap = b :: c :: gap' := by
    cases gap with
    | nil => simp at blanks
    | cons b gap =>
      cases gap with
      | nil => simp at blanks
      | cons c gap => exact ⟨b, c, gap, rfl⟩
  have fewer : IsGap gap := by
    refine ⟨?_, fun d hd => blank d (by simp [hd])⟩
    rintro rfl
    simp at blanks
  rw [atLine?_behind_gap ⟨by simp, blank⟩ fewer] at read
  have passed : IsGap [b] := ⟨by simp, by simpa using blank b List.mem_cons_self⟩
  have told : ∀ e ∈ [c], inLine e = true := by simpa using inside c (by simp)
  have behind := BasicWorkbench.toldBehind?_isSome passed (upToLine?_isSome (by simp) told read)
  exact behind

/-- Where "Error:" stands behind another one, all that follows it comes behind the blanks of that one. -/
theorem suffix_of_later_error {s t a b : Text} (first : dropWord? "error:" s = some a)
    (later : dropWord? "error:" t = some b) (within : t <:+ s) (other : t ≠ s) : b <:+ trimStart a := by
  obtain ⟨v, rfl, spelled⟩ := dropWord?_eq_some_iff.mp first
  obtain ⟨w, rfl, spelled'⟩ := dropWord?_eq_some_iff.mp later
  obtain ⟨front, same⟩ := within
  have apart : 0 < front.length := by
    refine List.length_pos_iff.mpr ?_
    rintro rfl
    exact other same
  have lengths : v.length = w.length := by
    rw [← List.length_map foldChar, spelled, ← spelled', List.length_map]
  have longer := congrArg List.length same
  simp only [List.length_append] at longer
  obtain ⟨x, rfl⟩ : b <:+ a :=
    List.suffix_of_suffix_length_le (⟨front ++ w, by simpa using same⟩) (List.suffix_append v a) (by omega)
  have nonempty : x ≠ [] := by
    rintro rfl
    rw [List.nil_append] at longer
    omega
  rw [← List.append_assoc, ← List.append_assoc] at same
  have ends : front ++ w = v ++ x := List.append_cancel_right same
  obtain ⟨letters, rfl, _⟩ := spelled_error spelled'
  have last : (v ++ x).getLast? = some ':' := by rw [← ends, ← List.append_assoc, List.getLast?_concat]
  rw [List.getLast?_append_of_ne_nil _ nonempty] at last
  have colon := List.mem_of_getLast? last
  have solid : (trimStart x).isEmpty = false := by
    rw [← Bool.not_eq_true, List.isEmpty_iff]
    intro gone
    exact absurd (List.dropWhile_eq_nil_iff.mp gone ':' colon) (by decide)
  rw [trimStart_append, solid]
  exact List.suffix_append (trimStart x) b

/-- Nothing can be told behind an "Error:" without a blank. -/
theorem errorAtLine?_eq_starting :
    errorAtLine? =
      leftmost fun s => ((dropWord? "error:" s).filter fun u => (dropBlanks? u).isSome).bind toldBehind? := by
  rw [errorAtLine?_eq_leftmost]
  congr 1
  funext s
  cases dropWord? "error:" s with
  | none => rfl
  | some u =>
    rw [Option.filter_some, Option.bind_some]
    split
    next => rfl
    next silent =>
      rw [Option.bind_none, ← Option.not_isSome_iff_eq_none]
      exact fun found => silent (dropBlanks?_isSome_of_toldBehind found)

theorem suffix_of_afterError {line s : Text} (found : afterError? line = some s) : s <:+ line := by
  obtain ⟨t, within, found⟩ := exists_suffix_of_leftmost found
  obtain ⟨start, _⟩ := Option.filter_eq_some_iff.mp found
  exact (suffix_of_dropWord start).trans within

section Lines

variable {line : Text} (fills : FillsLine line)

include fills

/-- Of several errors only the first with a blank behind it can be told with its line. -/
theorem FillsLine.errorAtLine?_eq : errorAtLine? line = (afterError? line).bind toldBehind? := by
  rw [errorAtLine?_eq_starting]
  refine leftmost_bind fun s a within first missed t b within' other later => ?_
  obtain ⟨start, starts⟩ := Option.filter_eq_some_iff.mp first
  obtain ⟨start', _⟩ := Option.filter_eq_some_iff.mp later
  have inside := (suffix_of_dropWord start).trans within
  have inside' := (suffix_of_dropWord start').trans (within'.trans within)
  rw [← Option.not_isSome_iff_eq_none]
  intro found
  obtain ⟨sighting, found⟩ := Option.isSome_iff_exists.mp found
  have mentions : MentionsLine b := by
    rcases fills.toldBehind_cases inside' found with ⟨mentions, _⟩ | ⟨bare, _⟩
    · exact mentions.of_within (List.dropWhile_suffix _)
    · exact .of_suffix bare.read List.suffix_rfl
  have mentions' := mentions.of_within (suffix_of_later_error start start' within' other)
  have found' := toldBehind?_of_mention starts (fun c hc => fills.isMessage.inside c (inside.subset hc)) mentions'
  rw [missed] at found'
  contradiction

/-- The message of an error with its line fills its place, unless the line tells nothing: then it is a blank. -/
theorem FillsLine.errorAtLine_cases {sighting : Sighting} (found : errorAtLine? line = some sighting) :
    (¬TellsNothing line ∧ FillsLine sighting.message) ∨
      (TellsNothing line ∧ IsLoneBlank sighting.message) := by
  rw [fills.errorAtLine?_eq] at found
  obtain ⟨s, after, found⟩ := Option.bind_eq_some_iff.mp found
  have within := suffix_of_afterError after
  rcases fills.toldBehind_cases within found with ⟨mentions, filled⟩ | ⟨bare, lone⟩
  · refine .inl ⟨?_, filled⟩
    rintro ⟨s', after', bare⟩
    obtain rfl : s' = s := Option.some.inj (after'.symm.trans after)
    exact bare.silent mentions
  · exact .inr ⟨⟨s, after, bare⟩, lone⟩

theorem FillsLine.errorAtLine_of_tellsNothing (hollow : TellsNothing line) : (errorAtLine? line).isSome = true := by
  obtain ⟨s, after, bare⟩ := hollow
  have within := suffix_of_afterError after
  rw [fills.errorAtLine?_eq, show afterError? line = some s from after]
  exact bare.toldBehind?_isSome fun c hc => fills.isMessage.inside c (within.subset hc)

end Lines

end BasicWorkbench
