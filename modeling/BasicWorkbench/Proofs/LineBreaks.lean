import Mathlib.Data.List.Chain
import BasicWorkbench.TextLines

namespace BasicWorkbench

inductive LineBreak where
  | lineFeed
  | pair
  | carriageReturn
  deriving DecidableEq, Repr

def LineBreak.text : LineBreak → Text
  | .lineFeed => ['\n']
  | .pair => ['\r', '\n']
  | .carriageReturn => ['\r']

/-- A text as its first line and the lines behind that, each with the break in front of it. -/
structure BrokenText where
  first : Text
  more : List (LineBreak × Text)
  deriving DecidableEq, Repr

namespace BrokenText

def lines (t : BrokenText) : List Text := t.first :: t.more.map Prod.snd

def text (t : BrokenText) : Text := t.first ++ t.more.flatMap fun e => e.1.text ++ e.2

def withFeeds (t : BrokenText) : BrokenText := ⟨t.first, t.more.map fun e => (.lineFeed, e.2)⟩

/-- No line has a part of a break in it, and no two breaks are the halves of one: a carriage return with an empty
line behind it is not followed by a line feed. -/
structure IsProper (t : BrokenText) : Prop where
  unbroken : ∀ line ∈ t.lines, ∀ c ∈ line, c ≠ '\r' ∧ c ≠ '\n'
  whole : t.more.IsChain fun e e' => e = (.carriageReturn, []) → e'.1 ≠ .lineFeed

end BrokenText

/-- A break ends the empty line in front of it, if it is not the first half of a longer one. -/
theorem splitBreaks_break {b : LineBreak} {s : Text} (whole : b = .carriageReturn → s.head? ≠ some '\n') :
    splitBreaks (b.text ++ s) = [] :: splitBreaks s := by
  cases b with
  | pair => rfl
  | carriageReturn =>
    change splitBreaks ('\r' :: s) = _
    rw [splitBreaks]
    · rfl
    · rintro rest - rfl
      exact whole rfl rfl
  | lineFeed =>
    change splitBreaks ('\n' :: s) = _
    rw [splitBreaks]
    · rfl
    · intro rest first
      exact absurd first (by decide)

theorem splitBreaks_append {line : Text} (unbroken : ∀ c ∈ line, c ≠ '\r' ∧ c ≠ '\n') (s : Text) :
    splitBreaks (line ++ s) = (splitBreaks s).modifyHead (line ++ ·) := by
  obtain ⟨first, more, lines⟩ := List.exists_cons_of_ne_nil (splitBreaks_ne_nil s)
  rw [lines, List.modifyHead_cons]
  induction line with
  | nil => exact lines
  | cons c line ih =>
    obtain ⟨inside, unbroken⟩ := List.forall_mem_cons.mp unbroken
    rw [List.cons_append, splitBreaks_cons (not_or.mpr inside), ih unbroken]
    rfl

namespace BrokenText

theorem text_cons (first line : Text) (b : LineBreak) (more : List (LineBreak × Text)) :
    text ⟨first, (b, line) :: more⟩ = first ++ (b.text ++ text ⟨line, more⟩) := by
  simp [text]

/-- The text behind a carriage return does not go on with a line feed. -/
theorem IsProper.head?_ne {first line : Text} {b : LineBreak} {more : List (LineBreak × Text)}
    (proper : IsProper ⟨first, (b, line) :: more⟩) (carriage : b = .carriageReturn) :
    (text ⟨line, more⟩).head? ≠ some '\n' := by
  have solid := proper.unbroken line (by simp [lines])
  cases line with
  | cons c line =>
    intro feed
    exact (solid c List.mem_cons_self).2 (Option.some.inj feed)
  | nil =>
    cases more with
    | nil => simp [text]
    | cons e more =>
      obtain ⟨b', line⟩ := e
      have other : b' ≠ .lineFeed := (List.isChain_cons_cons.mp proper.whole).1 (by rw [carriage])
      rw [text_cons]
      cases b' with
      | pair => simp [LineBreak.text]
      | carriageReturn => simp [LineBreak.text]
      | lineFeed => exact absurd rfl other

theorem IsProper.rest {first line : Text} {b : LineBreak} {more : List (LineBreak × Text)}
    (proper : IsProper ⟨first, (b, line) :: more⟩) : IsProper ⟨line, more⟩ where
  unbroken l hl := proper.unbroken l (List.mem_cons_of_mem first hl)
  whole := proper.whole.tail

/-- A text that is put together from lines is cut into these again. -/
theorem IsProper.splitBreaks_text {t : BrokenText} (proper : t.IsProper) : splitBreaks t.text = t.lines := by
  obtain ⟨first, more⟩ := t
  induction more generalizing first with
  | nil =>
    have cut := splitBreaks_append (proper.unbroken first List.mem_cons_self) []
    exact cut.trans (by simp [splitBreaks, lines])
  | cons e more ih =>
    obtain ⟨b, line⟩ := e
    rw [text_cons, splitBreaks_append (proper.unbroken first List.mem_cons_self),
      splitBreaks_break proper.head?_ne, ih line proper.rest]
    simp [lines]

theorem lines_withFeeds (t : BrokenText) : t.withFeeds.lines = t.lines := by
  simp [lines, withFeeds]

theorem IsProper.withFeeds {t : BrokenText} (proper : t.IsProper) : t.withFeeds.IsProper := by
  refine ⟨fun line hl => proper.unbroken line (t.lines_withFeeds ▸ hl), ?_⟩
  rw [BrokenText.withFeeds, List.isChain_map]
  exact proper.whole.imp fun _ _ _ carriage => by simp at carriage

theorem IsProper.longer {t : BrokenText} (proper : t.IsProper) {c : Char} (inside : ¬(c = '\r' ∨ c = '\n')) :
    IsProper ⟨c :: t.first, t.more⟩ := by
  obtain ⟨first, rest⟩ := List.forall_mem_cons.mp proper.unbroken
  have first' : ∀ d ∈ c :: t.first, d ≠ '\r' ∧ d ≠ '\n' := List.forall_mem_cons.mpr ⟨not_or.mp inside, first⟩
  exact ⟨List.forall_mem_cons.mpr ⟨first', rest⟩, proper.whole⟩

theorem IsProper.behind {t : BrokenText} (proper : t.IsProper) {b : LineBreak}
    (whole : b = .carriageReturn → t.text.head? ≠ some '\n') : IsProper ⟨[], (b, t.first) :: t.more⟩ := by
  obtain ⟨first, more⟩ := t
  refine ⟨List.forall_mem_cons.mpr ⟨by simp, proper.unbroken⟩, ?_⟩
  cases more with
  | nil => exact List.isChain_singleton _
  | cons e more =>
    refine List.isChain_cons_cons.mpr ⟨?_, proper.whole⟩
    intro both feed
    obtain ⟨rfl, rfl⟩ := Prod.mk.inj both
    obtain ⟨b', line⟩ := e
    obtain rfl : b' = .lineFeed := feed
    exact whole rfl (by rw [text_cons]; rfl)

end BrokenText

/-- Every text can be put together from the lines into which it is cut. -/
theorem exists_brokenText (s : Text) : ∃ t : BrokenText, t.IsProper ∧ t.text = s ∧ t.lines = splitBreaks s := by
  fun_induction splitBreaks s with
  | case1 => exact ⟨⟨[], []⟩, ⟨by simp [BrokenText.lines], List.isChain_nil⟩, rfl, rfl⟩
  | case2 s ih =>
    obtain ⟨t, proper, rfl, lines⟩ := ih
    refine ⟨⟨[], (.pair, t.first) :: t.more⟩, proper.behind (by simp), BrokenText.text_cons .., ?_⟩
    rw [← lines]
    rfl
  | case3 c s single breaks ih =>
    obtain ⟨t, proper, rfl, lines⟩ := ih
    have broken : ∃ b : LineBreak, b.text = [c] ∧ (b = .carriageReturn → c = '\r') := by
      rcases Bool.or_eq_true_iff.mp breaks with carriage | feed
      · exact ⟨.carriageReturn, by rw [of_decide_eq_true carriage]; rfl, fun _ => of_decide_eq_true carriage⟩
      · exact ⟨.lineFeed, by rw [of_decide_eq_true feed]; rfl, by simp⟩
    obtain ⟨b, written, first⟩ := broken
    have whole : b = .carriageReturn → t.text.head? ≠ some '\n' := by
      intro carriage feed
      obtain ⟨rest, behind⟩ := List.head?_eq_some_iff.mp feed
      exact single rest (first carriage) behind
    refine ⟨⟨[], (b, t.first) :: t.more⟩, proper.behind whole, ?_, ?_⟩
    · rw [BrokenText.text_cons, written]
      rfl
    · rw [← lines]
      rfl
  | case4 c s _ inside ih =>
    obtain ⟨t, proper, rfl, lines⟩ := ih
    refine ⟨⟨c :: t.first, t.more⟩, proper.longer (by simpa using inside), rfl, ?_⟩
    rw [← lines]
    rfl

theorem no_break_of_mem_splitBreaks (s : Text) : ∀ line ∈ splitBreaks s, ∀ c ∈ line, c ≠ '\r' ∧ c ≠ '\n' := by
  obtain ⟨t, proper, _, lines⟩ := exists_brokenText s
  exact lines ▸ proper.unbroken

theorem unifyBreaks_append {line : Text} (unbroken : ∀ c ∈ line, c ≠ '\r' ∧ c ≠ '\n') (s : Text) :
    unifyBreaks (line ++ s) = line ++ unifyBreaks s := by
  induction line with
  | nil => rfl
  | cons c line ih =>
    obtain ⟨⟨carriage, _⟩, unbroken⟩ := List.forall_mem_cons.mp unbroken
    rw [List.cons_append, unifyBreaks, if_neg carriage, ih unbroken]
    · rfl
    · intro rest first
      exact absurd first carriage

theorem unifyBreaks_break {b : LineBreak} {s : Text} (whole : b = .carriageReturn → s.head? ≠ some '\n') :
    unifyBreaks (b.text ++ s) = '\n' :: unifyBreaks s := by
  cases b with
  | pair => rfl
  | carriageReturn =>
    change unifyBreaks ('\r' :: s) = _
    rw [unifyBreaks]
    · rfl
    · rintro rest - rfl
      exact whole rfl rfl
  | lineFeed => rfl

/-- One break for all is put between the same lines. -/
theorem BrokenText.IsProper.unifyBreaks_text {t : BrokenText} (proper : t.IsProper) :
    unifyBreaks t.text = t.withFeeds.text := by
  obtain ⟨first, more⟩ := t
  induction more generalizing first with
  | nil =>
    have kept := unifyBreaks_append (proper.unbroken first List.mem_cons_self) []
    exact kept
  | cons e more ih =>
    obtain ⟨b, line⟩ := e
    have feeds : BrokenText.withFeeds ⟨first, (b, line) :: more⟩ =
        ⟨first, (.lineFeed, line) :: (BrokenText.withFeeds ⟨line, more⟩).more⟩ := rfl
    rw [text_cons, unifyBreaks_append (proper.unbroken first List.mem_cons_self), unifyBreaks_break proper.head?_ne,
      ih line proper.rest, feeds, text_cons]
    rfl

/-- With one break for all the lines stay as they are. -/
theorem splitBreaks_unifyBreaks (s : Text) : splitBreaks (unifyBreaks s) = splitBreaks s := by
  obtain ⟨t, proper, rfl, lines⟩ := exists_brokenText s
  rw [proper.unifyBreaks_text, proper.withFeeds.splitBreaks_text, t.lines_withFeeds, lines]

theorem dropMark_of_head {s : Text} (h : s.head? ≠ some '\ufeff') : dropMark s = s := by
  cases s with
  | nil => rfl
  | cons c s => exact if_neg fun mark => h (by rw [mark]; rfl)

theorem head?_unifyBreaks {s : Text} (h : s.head? ≠ some '\ufeff') :
    (unifyBreaks s).head? ≠ some '\ufeff' := by
  fun_cases unifyBreaks s with
  | case1 => simp
  | case2 s => simp
  | case3 c s other =>
    split
    next => simp
    next => simpa using h

theorem dropMark_unifyBreaks (s : Text) : dropMark (unifyBreaks s) = unifyBreaks (dropMark s) := by
  by_cases marked : s.head? = some '\ufeff'
  · obtain ⟨rest, rfl⟩ := List.head?_eq_some_iff.mp marked
    rfl
  · rw [dropMark_of_head marked, dropMark_of_head (head?_unifyBreaks marked)]

theorem editorLines_unifyBreaks (s : Text) : editorLines (unifyBreaks s) = editorLines s := by
  rw [editorLines, dropMark_unifyBreaks, splitBreaks_unifyBreaks, editorLines]

/-- The lines of a document: there is one at least, none has a break in it, and they alone, put together with breaks
between them, give the text without its mark, where no carriage return may be the first half of a pair. Line feeds for
all breaks are put between the same lines, so that the lines do not depend on which breaks a text has. -/
theorem editorLines_exact (text : Text) :
    editorLines text ≠ [] ∧ (∀ line ∈ editorLines text, ∀ c ∈ line, c ≠ '\r' ∧ c ≠ '\n') ∧
      (∀ lines, (∃ t : BrokenText, t.IsProper ∧ t.text = dropMark text ∧ t.lines = lines) ↔
        lines = editorLines text) ∧
      (∀ t : BrokenText, t.IsProper → t.text = dropMark text → dropMark (unifyBreaks text) = t.withFeeds.text) ∧
      editorLines (unifyBreaks text) = editorLines text := by
  refine ⟨splitBreaks_ne_nil _, no_break_of_mem_splitBreaks _, ?_, ?_, editorLines_unifyBreaks text⟩
  · intro lines
    constructor
    · rintro ⟨t, proper, whole, rfl⟩
      rw [editorLines, ← whole, proper.splitBreaks_text]
    · rintro rfl
      exact exists_brokenText (dropMark text)
  · intro t proper whole
    rw [dropMark_unifyBreaks, ← whole, proper.unifyBreaks_text]

/-- A mark, and carriage returns in front of a pair of the two. -/
example : editorLines "\ufeffa\r\r\r\n\nb" = [['a'], [], [], [], ['b']] := rfl

end BasicWorkbench
