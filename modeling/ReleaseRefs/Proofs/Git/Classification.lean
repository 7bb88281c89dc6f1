import Mathlib.Data.List.Infix
import ReleaseRefs.Proofs.Git.DryRun

/-!
# `ReleaseRefs.Proofs.Git.Classification`: what a failed command is taken for

What git printed decides whether another attempt is made, whether a push counts as rejected, and
whether local changes stood in the way of a checkout. A command that printed nothing is judged by
the wording of its failure instead, and the wording quotes the command line. So there the name of a
remote or of a branch may decide.

- `mentions_iff_found`: a mark is found in a text exactly if it is found when the characters are
  lowered one by one. The two small forms of sigma make no difference, as no mark has one.
- `Mark` says of a mark that it fits between the signs by which a wording is put together, and
  `mentions_silent` that a wording has a mark exactly if one of two parts has it: what it says of
  the status, or the command line.
- `failures_judged` puts two failures side by side that differ in the command line only. They are
  diagnosed alike if something was printed, or if both command lines have marks of the same kinds.
-/

set_option autoImplicit false

namespace ReleaseRefs.Proofs.Git

open ReleaseRefs.Git

/-! ### Marks in lowered texts -/

/-- The common small sigma. -/
def smallSigma : Char := '\u03c3'

/-- A character, with the common form in place of the small sigma at the end of a word. -/
def commonForm (c : Char) : Char := if c = Text.finalSigma then smallSigma else c

/-- But for the form of sigma, lowering goes character by character. -/
theorem map_lowerFrom (before cs : List Char) :
    (Text.lowerFrom before cs).map commonForm = (cs.flatMap Text.lowerChar).map commonForm := by
  induction cs generalizing before with
  | nil => rfl
  | cons c r ih =>
    rw [Text.lowerFrom, List.map_append, ih, List.flatMap_cons, List.map_append]
    congr 1
    split
    · next sigma =>
      rw [sigma.1]
      decide
    · rfl

/-- What has no small sigma is found in characters exactly if it is found in their common forms. -/
theorem infix_map_commonForm_iff {mark cs : List Char}
    (plain : smallSigma ∉ mark ∧ Text.finalSigma ∉ mark) :
    mark <:+: cs.map commonForm ↔ mark <:+: cs := by
  have fixed {xs : List Char} (same : ∀ c ∈ xs, commonForm c = c) : xs.map commonForm = xs :=
    (List.map_congr_left same).trans (List.map_id' xs)
  rw [List.infix_map_iff]
  constructor
  · rintro ⟨xs, inside, rfl⟩
    -- A character that was changed would be a sigma of the mark.
    rw [fixed fun c member => ?_]
    · exact inside
    · have changed := List.mem_map_of_mem (f := commonForm) member
      unfold commonForm at changed ⊢
      split at changed
      · exact absurd changed plain.1
      · next other => rw [if_neg other]
  · intro inside
    refine ⟨mark, inside, (fixed fun c member => if_neg ?_).symm⟩
    rintro rfl
    exact plain.2 member

/-- One of the marks is found in the characters, each of them lowered by itself. -/
def Found (marks : List String) (cs : List Char) : Prop :=
  ∃ mark ∈ marks, mark.toList <:+: cs.flatMap Text.lowerChar

/-- A mark that fits between the signs of a wording: there is something to it, it starts with no
blank, and it has none of the signs, nor a small sigma. -/
structure Mark (mark : List Char) : Prop where
  nonempty : mark ≠ []
  first : mark.head? ≠ some ' '
  plain : smallSigma ∉ mark ∧ Text.finalSigma ∉ mark
  unsigned : '\'' ∉ mark ∧ ')' ∉ mark ∧ ':' ∉ mark ∧ '\n' ∉ mark

/-- The kinds of marks that are searched for. -/
def markKinds : List (List String) := [transientMarks, refusalMarks, overwriteMarks]

theorem mark_of_kind : ∀ marks ∈ markKinds, ∀ mark ∈ marks, Mark mark.toList := by
  have checked : ∀ marks ∈ markKinds, ∀ mark ∈ marks, mark.toList ≠ [] ∧
      mark.toList.head? ≠ some ' ' ∧
      (smallSigma ∉ mark.toList ∧ Text.finalSigma ∉ mark.toList) ∧
      '\'' ∉ mark.toList ∧ ')' ∉ mark.toList ∧ ':' ∉ mark.toList ∧ '\n' ∉ mark.toList := by
    decide +kernel
  intro marks kind mark member
  obtain ⟨nonempty, first, plain, unsigned⟩ := checked marks kind mark member
  exact ⟨nonempty, first, plain, unsigned⟩

/-- A text has a mark exactly if the mark is found in its characters, lowered one by one. -/
theorem mentions_iff_found {marks : List String} (kind : marks ∈ markKinds) (s : String) :
    mentions marks s = true ↔ Found marks s.toList := by
  rw [mentions, List.any_eq_true, Found]
  refine exists_congr fun mark => and_congr_right fun member => ?_
  have plain := (mark_of_kind marks kind mark member).plain
  rw [Text.contains, Text.lower, String.toList_ofList, Text.containsChars_iff,
    ← infix_map_commonForm_iff plain, Text.lowerChars, map_lowerFrom,
    infix_map_commonForm_iff plain]

/-! ### Marks in wordings -/

/-- What does not have a sign is found on one of its sides. -/
theorem infix_append_sign_iff {mark xs ys : List Char} {c : Char} (nonempty : mark ≠ [])
    (unsigned : c ∉ mark) : mark <:+: xs ++ c :: ys ↔ mark <:+: xs ∨ mark <:+: ys := by
  have apart : ¬ Spans [] c mark := by
    rintro ⟨i, -, -, place, -⟩
    exact unsigned (List.mem_of_getElem? place)
  have back : mark <:+: c :: ys ↔ mark <:+: ys := by
    rw [List.infix_cons_iff, or_iff_right]
    intro start
    obtain ⟨d, r, rfl⟩ := List.exists_cons_of_ne_nil nonempty
    exact unsigned (List.cons_prefix_cons.1 start |>.1 ▸ List.mem_cons_self)
  rw [infix_append_cons_iff apart (List.nil_suffix), back]

/-- What starts with no blank is found behind one. -/
theorem infix_blank_iff {mark ys : List Char} (nonempty : mark ≠ [])
    (first : mark.head? ≠ some ' ') : mark <:+: ' ' :: ys ↔ mark <:+: ys := by
  rw [List.infix_cons_iff, or_iff_right]
  intro start
  obtain ⟨d, r, rfl⟩ := List.exists_cons_of_ne_nil nonempty
  exact first (congrArg some (List.cons_prefix_cons.1 start).1)

/-- The command line as a wording quotes it. -/
def quotedLine (f : CommandFailure) : String := " ".intercalate f.words

/-- What the wording of a failure says of the status. -/
def statusText (f : CommandFailure) : String := "failed" ++ f.status.clause

/-- Nothing was printed. -/
def Silent (f : CommandFailure) : Prop := f.stdout = "" ∧ f.stderr = ""

/-- The wording of a silent failure, cut at its signs. -/
theorem output_silent {f : CommandFailure} (silent : Silent f) :
    f.output.toList =
      "Cmd(".toList ++ '\'' :: ((f.words.headD "").toList ++ '\'' :: ')' :: ' ' ::
        ((statusText f).toList ++ '\n' :: ("  cmdline".toList ++ ':' :: ' ' ::
          (quotedLine f).toList))) := by
  have nothing (name : String) : streamText name "" = "" := rfl
  have start : "Cmd('".toList = "Cmd(".toList ++ ['\''] := by decide
  have word : "') ".toList = ['\'', ')', ' '] := by decide
  have label : "\n  cmdline: ".toList = '\n' :: ("  cmdline".toList ++ [':', ' ']) := by decide
  -- Not `rw`, which would go on to compare the texts character by character.
  rewrite [CommandFailure.output, if_neg (not_not_intro silent.2), if_neg (not_not_intro silent.1),
    CommandFailure.text, CommandFailure.textWith, CommandFailure.stdoutText,
    CommandFailure.stderrText, silent.1, silent.2, nothing, nothing]
  simp only [statusText, quotedLine, String.toList_append, String.append_empty, start, word, label,
    List.append_assoc, List.cons_append, List.nil_append]

/-- The first word of the quoted command line is found in it. -/
theorem firstWord_within (f : CommandFailure) :
    (f.words.headD "").toList <:+: (quotedLine f).toList := by
  unfold quotedLine
  cases f.words with
  | nil => exact List.infix_refl _
  | cons word rest =>
    cases rest with
    | nil => simp
    | cons next rest =>
      rw [String.intercalate_cons_cons, String.toList_append, String.toList_append,
        List.append_assoc]
      exact (List.prefix_append _ _).isInfix

/-- In a wording, a mark that is not in its fixed parts is found in what stands between the first
word and the line, or in the line, where the first word is found again. -/
theorem Mark.infix_wording_iff {mark : List Char} (fits : Mark mark)
    {start word status label line : List Char} (notStart : ¬ mark <:+: start)
    (notLabel : ¬ mark <:+: label) (again : mark <:+: word → mark <:+: line) :
    mark <:+: start ++ '\'' :: (word ++ '\'' :: ')' :: ' ' :: (status ++ '\n' ::
        (label ++ ':' :: ' ' :: line))) ↔
      mark <:+: status ∨ mark <:+: line := by
  obtain ⟨quote, paren, colon, newline⟩ := fits.unsigned
  have notNil : ¬ mark <:+: [] := fun found => fits.nonempty (List.infix_nil.1 found)
  rw [infix_append_sign_iff fits.nonempty quote, infix_append_sign_iff fits.nonempty quote,
    ← List.nil_append (')' :: _), infix_append_sign_iff fits.nonempty paren,
    infix_blank_iff fits.nonempty fits.first, infix_append_sign_iff fits.nonempty newline,
    infix_append_sign_iff fits.nonempty colon, infix_blank_iff fits.nonempty fits.first]
  tauto

/-- Where nothing was printed, a mark is found exactly if it is found in what the wording says of
the status or in the command line. -/
theorem mentions_silent {f : CommandFailure} (silent : Silent f) {marks : List String}
    (kind : marks ∈ markKinds) :
    mentions marks f.output = (mentions marks (statusText f) || mentions marks (quotedLine f)) := by
  have labels : ∀ marks ∈ markKinds, ∀ mark ∈ marks,
      ¬ mark.toList <:+: "Cmd(".toList.flatMap Text.lowerChar ∧
      ¬ mark.toList <:+: "  cmdline".toList.flatMap Text.lowerChar := by decide +kernel
  have signs : Text.lowerChar '\'' = ['\''] ∧ Text.lowerChar ')' = [')'] ∧
      Text.lowerChar ' ' = [' '] ∧ Text.lowerChar '\n' = ['\n'] ∧ Text.lowerChar ':' = [':'] := by
    decide
  rewrite [Bool.eq_iff_iff, Bool.or_eq_true, mentions_iff_found kind, mentions_iff_found kind,
    mentions_iff_found kind, output_silent silent]
  unfold Found
  rewrite [← exists_or]
  refine exists_congr fun mark => ?_
  rewrite [← and_or_left]
  refine and_congr_right fun member => ?_
  obtain ⟨notStart, notLabel⟩ := labels marks kind mark member
  simp only [List.flatMap_append, List.flatMap_cons, signs, List.cons_append, List.nil_append]
  exact (mark_of_kind marks kind mark member).infix_wording_iff notStart notLabel
    fun found => found.trans ((firstWord_within f).flatMap Text.lowerChar)

/-! ### Verdicts -/

/-- Two failures are of the same kind, with the same operation, and in both of them another attempt
may help or in neither. The reasons of rejections may differ. -/
inductive SameVerdict : GitFault → GitFault → Prop where
  | other (operation : Option String) (recoverable : Bool) :
      SameVerdict (.other operation recoverable) (.other operation recoverable)
  | checkout (branch : Option String) (recoverable : Bool) :
      SameVerdict (.checkout branch recoverable) (.checkout branch recoverable)
  | rejected (reason reason' : String) : SameVerdict (.rejected reason) (.rejected reason')

/-- The kinds of marks that are found decide on the verdict. -/
theorem sameVerdict_of_marks {f g : CommandFailure}
    (same : ∀ marks ∈ markKinds, mentions marks f.output = mentions marks g.output)
    (operation ref : String) :
    SameVerdict (diagnose f operation ref).fault (diagnose g operation ref).fault := by
  have passing := same transientMarks (by simp [markKinds])
  have refused := same refusalMarks (by simp [markKinds])
  have overwritten := same overwriteMarks (by simp [markKinds])
  simp only [diagnose, CommandFailure.isTransient, passing, refused, overwritten]
  split
  · exact .checkout _ _
  · split
    · exact .rejected _ _
    · exact .other _ _

/-- Of two failed commands with the same status and the same output, only the command lines may be
told apart.

- If something was printed, both may pass or neither, and for every operation and ref both amount to
  the same failure.
- If nothing was printed, a mark is found exactly if it is in what the wording says of the status or
  in the command line.
- So if the command lines have marks of the same kinds, both may pass or neither, and for every
  operation and ref the verdict is the same. -/
theorem failures_judged (command command' : List String) (status : Status)
    (stderr stdout : String) :
    let f : CommandFailure := ⟨command, status, stderr, stdout⟩
    let g : CommandFailure := ⟨command', status, stderr, stdout⟩
    (stdout ≠ "" ∨ stderr ≠ "" → f.isTransient = g.isTransient ∧
      ∀ operation ref, diagnose f operation ref = diagnose g operation ref) ∧
    (Silent f → ∀ marks ∈ markKinds, mentions marks f.output =
      (mentions marks (statusText f) || mentions marks (quotedLine f))) ∧
    ((∀ marks ∈ markKinds, mentions marks (quotedLine f) = mentions marks (quotedLine g)) →
      f.isTransient = g.isTransient ∧
      ∀ operation ref,
        SameVerdict (diagnose f operation ref).fault (diagnose g operation ref).fault) := by
  intro f g
  -- The fallback to the wording is not reached if something was printed.
  have same (printed : stdout ≠ "" ∨ stderr ≠ "") : f.output = g.output :=
    output_congr rfl rfl printed
  refine ⟨fun printed => ⟨congrArg (mentions transientMarks) (same printed),
    diagnose_congr (same printed)⟩, fun silent _ => mentions_silent silent, fun lines => ?_⟩
  have alike : ∀ marks ∈ markKinds, mentions marks f.output = mentions marks g.output := by
    intro marks kind
    by_cases printed : stdout ≠ "" ∨ stderr ≠ ""
    · rw [same printed]
    · have silent : stdout = "" ∧ stderr = "" := by simpa using printed
      have status : statusText f = statusText g := rfl
      rw [mentions_silent (f := f) silent kind, mentions_silent (f := g) silent kind, status,
        lines marks kind]
  exact ⟨alike transientMarks (by simp [markKinds]), sameVerdict_of_marks alike⟩

/-- A push that failed without a word. -/
def silentPush (remote : String) : CommandFailure :=
  failedPush remote "refs/tags/v1.0.0" (.code 1) "" "" false

/-- A push that failed without a word may pass if the remote has the name of a passing failure, and
else not. -/
theorem failures_judged_telling_remote :
    (silentPush "/srv/connection refused/k8s.git").isTransient = true ∧
    (silentPush "origin").isTransient = false ∧
    ∀ operation ref, SameVerdict (diagnose (silentPush "origin") operation ref).fault
      (diagnose (silentPush "upstream") operation ref).fault := by
  have judged (remote remote' : String) :=
    failures_judged ("git" :: Repository.pushWords false remote "refs/tags/v1.0.0")
      ("git" :: Repository.pushWords false remote' "refs/tags/v1.0.0") (.code 1) "" ""
  have passing (remote : String) :=
    (judged remote remote).2.1 ⟨rfl, rfl⟩ transientMarks (by simp [markKinds])
  refine ⟨(passing _).trans (by decide +kernel), (passing _).trans (by decide +kernel), ?_⟩
  exact ((judged "origin" "upstream").2.2 (by decide +kernel)).2

end ReleaseRefs.Proofs.Git
