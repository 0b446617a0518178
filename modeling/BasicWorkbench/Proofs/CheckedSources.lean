import Mathlib.Data.List.Forall2
import BasicWorkbench.Commands
import BasicWorkbench.Diagnostics
import BasicWorkbench.Proofs.BlockScans
import BasicWorkbench.Proofs.FileWalks
import BasicWorkbench.Proofs.LineBreaks
import BasicWorkbench.Proofs.PathTexts
import BasicWorkbench.Proofs.Utf8Reading

namespace BasicWorkbench

/-- A file that holds a text with at most one mark in front has the lines that an editor shows. -/
theorem editorLines_readableText {s : Text} (single : (dropMark s).head? ≠ some '\ufeff') :
    editorLines (readableText (encodeUtf8 s)) = editorLines s := by
  have read : readableText (encodeUtf8 s) = unifyBreaks (dropMark s) := by
    rw [readableText, decodeLossy_encodeUtf8]
  have unmarked : dropMark (unifyBreaks (dropMark s)) = unifyBreaks (dropMark s) :=
    dropMark_of_head (head?_unifyBreaks single)
  rw [read, editorLines, unmarked, splitBreaks_unifyBreaks, editorLines]

/-- How the check calls a block of a kind, a subroutine by its name. -/
def BlockKind.title (kind : BlockKind) (name : Text) : Text :=
  match kind with
  | .subroutine => "Sub " ++ name
  | _ => kind.opener

/-- How a diagnostic calls a block of a kind, a subroutine by its name. -/
def BlockKind.subject (kind : BlockKind) (name : Text) : Text :=
  match kind with
  | .subroutine => "Subroutine '" ++ name ++ "'"
  | _ => "'" ++ kind.opener ++ "' statement"

/-- A printed line and a diagnostic tell of one block: the line counts its place from one, the diagnostic from
zero, and both name the same kind and, for a subroutine, the same name. -/
def TellsOf (colors : Palette) (filename line : Text) (d : Diagnostic) : Prop :=
  ∃ (kind : BlockKind) (name : Text),
    line = colors.gray ++ filename ++ ":" ++ intText (d.span.start.line + 1) ++ ":" ++
      intText (d.span.start.character + 1) ++ ":" ++ colors.reset ++ " " ++ colors.red ++ "error:" ++
      colors.reset ++ " '" ++ kind.title name ++ "' is missing a matching '" ++ kind.closer ++ "'\n" ∧
    d.message = kind.subject name ++ " is missing a matching '" ++ kind.closer ++ "'"

theorem tellsOf_opener (colors : Palette) {filename : Text} (named : filename ≠ []) {b : BlockOpener}
    (titled : b.name.isSome ↔ b.kind = .subroutine) :
    TellsOf colors filename (openerLine colors filename b) b.diagnostic := by
  obtain ⟨kind, number, column, length, name⟩ := b
  refine ⟨kind, name.getD [], ?_⟩
  rw [openerLine, placeText_some, if_neg named]
  cases kind with
  | subroutine =>
    obtain ⟨name, rfl⟩ := Option.isSome_iff_exists.mp (titled.mpr rfl)
    refine ⟨?_, rfl⟩
    simp only [List.append_assoc]
    rfl
  | conditional | whileLoop | forLoop =>
    obtain rfl : name = none := by simpa using titled
    refine ⟨?_, rfl⟩
    simp only [List.append_assoc]
    rfl

theorem text_ne_nil_of_find {m : Machine} {p : Path} {trail : Trail} {bytes : List UInt8} {runnable : Runnable}
    (found : m.find p = .ok (some (trail, .file bytes runnable))) : p.text ≠ [] := by
  intro nothing
  obtain ⟨arrived, there⟩ := Machine.locate_of_find found
  rcases Path.bare_of_slash_notMem (p := p) (by simp [nothing]) with ⟨_, dot⟩ | bare
  · exact absurd (nothing.symm.trans dot) (by simp)
  · have walked := (Machine.locate_eq_ok.mp arrived).2
    rw [bare, nothing, Machine.walk_cons_eq_ok] at walked
    obtain ⟨directory, _, last⟩ := walked
    obtain ⟨_, rfl⟩ := Machine.walk_nil_eq_ok.mp last
    exact absurd (directory.symm.trans there) (by simp)

theorem read_of_find {m : Machine} {p : Path} {trail : Trail} {bytes : List UInt8} {runnable : Runnable}
    (found : m.find p = .ok (some (trail, .file bytes runnable))) : m.read p = .ok bytes := by
  rw [Machine.read, Machine.entry?_of_find found]
  rfl

theorem checkCommand_of_find {m : Machine} {input : Path} {trail : Trail} {bytes : List UInt8}
    {runnable : Runnable} (colors : Palette)
    (found : m.find input = .ok (some (trail, .file bytes runnable))) :
    checkCommand m colors input =
      match unclosedBlocksOf (readableText bytes) with
      | [] => .ok ⟨0, colors.green ++ "OK:" ++ colors.reset ++ " " ++ input.text ++
          " (all blocks closed)\n", []⟩
      | unclosed => .ok ⟨1, unclosed.flatMap (openerLine colors input.text), []⟩ := by
  have there : m.hasEntry input = .ok true := Machine.hasEntry_eq_true.mpr ⟨trail, _, found⟩
  have text : readTextFile m input = .ok (readableText bytes) := by
    rw [readTextFile, read_of_find found]
  rw [checkCommand, there, text]
  rfl

/-- The check of a file that holds a text ends well exactly if the editor finds no fault in the text; else it
fails and prints, in the same order, one line for every diagnostic, of the same block at the same place. -/
theorem check_agrees_with_editor {m : Machine} {env : Environment} {terminal : Bool} {args : List Text}
    {input : Path} {trail : Trail} {runnable : Runnable} {s : Text}
    (asked : Command.ofArguments args = .ok (.check input))
    (holds : m.find input = .ok (some (trail, .file (encodeUtf8 s) runnable)))
    (single : (dropMark s).head? ≠ some '\ufeff') :
    let diagnostics := blockDiagnostics (editorLines s)
    ∃ transcript, runArguments m env terminal args = .ok transcript ∧
      (transcript.code = 0 ↔ diagnostics = []) ∧
      (diagnostics ≠ [] → transcript.code = 1 ∧ ∃ lines : List Text, transcript.stdout = lines.flatten ∧
        List.Forall₂ (TellsOf (.choose terminal env) input.text) lines diagnostics) := by
  intro diagnostics
  have ran : runArguments m env terminal args = checkCommand m (.choose terminal env) input := by
    simp only [runArguments, asked, Command.perform]
  have blocks : unclosedBlocksOf (readableText (encodeUtf8 s)) = unclosedBlocks (editorLines s) := by
    rw [unclosedBlocksOf, editorLines_readableText single]
  rw [ran, checkCommand_of_find _ holds, blocks]
  have made : diagnostics = (unclosedBlocks (editorLines s)).map BlockOpener.diagnostic := rfl
  have named : ∀ b ∈ unclosedBlocks (editorLines s), b.name.isSome ↔ b.kind = .subroutine := by
    intro b hb
    obtain ⟨line, _, opened⟩ := mem_unclosedBlocks hb
    exact (openerOn?_eq_some opened).2.2
  cases h : unclosedBlocks (editorLines s) with
  | nil =>
    have none : diagnostics = [] := by rw [made, h]; rfl
    exact ⟨_, rfl, by simp [none], fun some => absurd none some⟩
  | cons b rest =>
    rw [h] at made named
    have some : diagnostics ≠ [] := by rw [made]; simp
    refine ⟨_, rfl, by simp [some], fun _ => ⟨rfl, ?_⟩⟩
    refine ⟨(b :: rest).map (openerLine (.choose terminal env) input.text), List.flatMap_def, ?_⟩
    rw [made, List.forall₂_map_left_iff, List.forall₂_map_right_iff, List.forall₂_same]
    exact fun opener hm => tellsOf_opener _ (text_ne_nil_of_find holds) (named opener hm)

/-- A mark in front and three kinds of breaks, with two blocks that stay open. -/
theorem check_agrees_behind_mixed_breaks :
    let s : Text := "\ufeffIf x\r\n  Sub go ' up\rEndIf\n\twhile a\u2028EndWhile"
    let m : Machine := ⟨[(["p"], .file (encodeUtf8 s) .denied)], [], []⟩
    ∃ transcript, runArguments m [] false ["check", "/p"] = .ok transcript ∧ transcript.code = 1 ∧
      transcript.stdout = "/p:2:3: error: 'Sub go' is missing a matching 'EndSub'\n" ++
        "/p:4:2: error: 'While' is missing a matching 'EndWhile'\n" ∧
      ∃ lines : List Text, transcript.stdout = lines.flatten ∧
        List.Forall₂ (TellsOf (.choose false []) "/p") lines (blockDiagnostics (editorLines s)) := by
  intro s m
  have asked : Command.ofArguments ["check", "/p"] = .ok (.check (.ofText "/p")) := by rfl
  have holds : m.find (.ofText "/p") = .ok (some (["p"], .file (encodeUtf8 s) .denied)) := by rfl
  have single : (dropMark s).head? ≠ some '\ufeff' := by decide
  have found : blockDiagnostics (editorLines s) ≠ [] := by decide
  have printed : (·.stdout) <$> runArguments m [] false ["check", "/p"] =
      .ok ("/p:2:3: error: 'Sub go' is missing a matching 'EndSub'\n" ++
        "/p:4:2: error: 'While' is missing a matching 'EndWhile'\n").toList := by rfl
  obtain ⟨transcript, ran, _, fails⟩ := @check_agrees_with_editor m [] false _ _ _ _ _ asked holds single
  obtain ⟨code, lines⟩ := fails found
  rw [ran] at printed
  exact ⟨transcript, ran, code, Except.ok.inj printed, lines⟩

end BasicWorkbench
