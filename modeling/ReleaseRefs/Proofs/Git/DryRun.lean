import Mathlib.Data.List.Forall2
import ReleaseRefs.Proofs.Git.Retries

/-!
# `ReleaseRefs.Proofs.Git.DryRun`: simulated pushes fail as real ones do

A push that is only simulated is the push command with one more word. The wording of a failure
quotes the command, and if git printed nothing then the failure is judged by that wording. So the
word could make a difference to what the failure is taken for.

- `Apart` says that a mark is found neither in the word nor across one of its ends, and
  `marks_apart` that this is so for all marks that are searched for. `mentions_command`: the word
  makes no difference to them.
- `Quotes` says of two texts that they are the same, but for the command that they quote. `Alike`
  says of two failures, and `Echo` of two events, that they differ in such texts only, apart from
  the event of a push that succeeded.
- `dry_runs_fail_alike` puts a push and a simulated push side by side, for all that git may answer.
  `simulated_push_told_apart`: the success of a simulated push is told in other words.
-/

set_option autoImplicit false

namespace ReleaseRefs.Proofs.Git

open ReleaseRefs.Git

/-! ### Marks -/

/-- Characters may lie across a place between a text with a certain end and a certain character:
they have the character, and what they have in front of it goes together with that end. -/
def Spans (ending : List Char) (c : Char) (needle : List Char) : Prop :=
  ∃ i < needle.length, 0 < i ∧ needle[i]? = some c ∧
    (needle.take i <:+ ending ∨ ending <:+ needle.take i)

instance (ending : List Char) (c : Char) : DecidablePred (Spans ending c) := fun needle =>
  inferInstanceAs (Decidable (∃ i < needle.length, 0 < i ∧ needle[i]? = some c ∧
    (needle.take i <:+ ending ∨ ending <:+ needle.take i)))

/-- What cannot lie across a place is found in front of it or behind it. -/
theorem infix_append_cons_iff {ending front back needle : List Char} {c : Char}
    (apart : ¬ Spans ending c needle) (ends : ending <:+ front) :
    needle <:+: front ++ c :: back ↔ needle <:+: front ∨ needle <:+: c :: back := by
  rw [List.infix_append_iff]
  constructor
  · rintro (found | found | ⟨first, second, rfl, before, behind⟩)
    · exact .inl found
    · exact .inr found
    · -- With characters on both sides, the needle would lie across the place.
      cases first with
      | nil => exact .inr behind.isInfix
      | cons a first =>
        cases second with
        | nil =>
          rw [List.append_nil]
          exact .inl before.isInfix
        | cons d second =>
          obtain ⟨rfl, -⟩ := List.cons_prefix_cons.1 behind
          refine absurd ⟨(a :: first).length, ?_, Nat.succ_pos _, ?_, ?_⟩ apart
          · simp
          · rw [List.getElem?_append_right (Nat.le_refl _), Nat.sub_self, List.getElem?_cons_zero]
          · rw [List.take_left]
            exact List.suffix_or_suffix_of_suffix before ends
  · rintro (found | found)
    · exact .inl found
    · exact .inr (.inl found)

/-- A mark is found neither in the word of a simulated push nor across one of its ends. -/
structure Apart (mark : List Char) : Prop where
  inside : ¬ mark <:+: " --dry-run".toList
  front : ¬ Spans "push".toList ' ' mark
  back : ¬ Spans " --dry-run".toList ' ' mark

/-- This is so for the marks of failures that may pass and for those of refused refs. -/
theorem marks_apart : ∀ mark ∈ transientMarks ++ refusalMarks, Apart mark.toList := by
  have inside : ∀ mark ∈ transientMarks ++ refusalMarks,
      ¬ mark.toList <:+: " --dry-run".toList := by decide +kernel
  have front : ∀ mark ∈ transientMarks ++ refusalMarks,
      ¬ Spans "push".toList ' ' mark.toList := by decide +kernel
  have back : ∀ mark ∈ transientMarks ++ refusalMarks,
      ¬ Spans " --dry-run".toList ' ' mark.toList := by decide +kernel
  exact fun mark member => ⟨inside mark member, front mark member, back mark member⟩

/-- The push command without its arguments. -/
def command (dryRun : Bool) : String := if dryRun then "git push --dry-run" else "git push"

/-- In a text that quotes the command, the word of a simulated push does not change which marks are
found. -/
theorem containsChars_command {mark : List Char} (apart : Apart mark) (front back : List Char) :
    Text.containsChars mark (Text.lowerChars (front ++ (command false).toList ++ ' ' :: back)) =
      Text.containsChars mark
        (Text.lowerChars (front ++ (command true).toList ++ ' ' :: back)) := by
  -- The words of the command are lowered apart from what stands around them.
  let before := Text.lowerChars (front ++ "git".toList) ++ " push".toList
  have push : Text.lowerChars "push".toList = "push".toList := by decide +kernel
  have word : Text.lowerChars "--dry-run".toList = "--dry-run".toList := by decide +kernel
  have real : Text.lowerChars (front ++ (command false).toList ++ ' ' :: back)
      = before ++ ' ' :: Text.lowerChars back := by
    have cut : front ++ (command false).toList ++ ' ' :: back
        = (front ++ "git".toList) ++ ' ' :: ("push".toList ++ ' ' :: back) := by
      simp [command]
    rw [cut, Text.lowerChars_append_space, Text.lowerChars_append_space, push]
    simp [before]
  have dry : Text.lowerChars (front ++ (command true).toList ++ ' ' :: back)
      = (before ++ " --dry-run".toList) ++ ' ' :: Text.lowerChars back := by
    have cut : front ++ (command true).toList ++ ' ' :: back
        = (front ++ "git".toList) ++ ' ' ::
          ("push".toList ++ ' ' :: ("--dry-run".toList ++ ' ' :: back)) := by
      simp [command]
    rw [cut, Text.lowerChars_append_space, Text.lowerChars_append_space,
      Text.lowerChars_append_space, push, word]
    simp [before]
  have ends : "push".toList <:+ before :=
    ⟨Text.lowerChars (front ++ "git".toList) ++ [' '], by simp [before]⟩
  have simulated : mark <:+: before ++ " --dry-run".toList ↔ mark <:+: before :=
    (infix_append_cons_iff apart.front ends).trans (or_iff_left apart.inside)
  -- So all that is found stands in front of the word or behind it, as without it.
  rw [Bool.eq_iff_iff, Text.containsChars_iff, Text.containsChars_iff, real, dry,
    infix_append_cons_iff apart.front ends,
    infix_append_cons_iff apart.back (List.suffix_append _ _), simulated]

/-- In a text that quotes the command, the word of a simulated push does not change whether one of
the marks is found. -/
theorem mentions_command {marks : List String} (apart : ∀ mark ∈ marks, Apart mark.toList)
    (front back : String) :
    mentions marks (front ++ command false ++ (" " ++ back)) =
      mentions marks (front ++ command true ++ (" " ++ back)) := by
  have chars (dryRun : Bool) : (front ++ command dryRun ++ (" " ++ back)).toList
      = front.toList ++ (command dryRun).toList ++ ' ' :: back.toList := by
    simp [String.toList_append]
  rw [mentions, mentions, Bool.eq_iff_iff, List.any_eq_true, List.any_eq_true]
  refine exists_congr fun mark => and_congr_right fun member => ?_
  simp only [Text.contains, Text.lower, String.toList_ofList, chars,
    containsChars_command (apart mark member)]

/-! ### Texts -/

/-- A text and another one are the same, but the other one may quote the command of a simulated push
where the first quotes that of a push. -/
def Quotes (real dry : String) : Prop :=
  dry = real ∨ ∃ front back, real = front ++ command false ++ back ∧
    dry = front ++ command true ++ back

/-- What stands in front of both texts makes no difference. -/
theorem Quotes.append {real dry : String} (quotes : Quotes real dry) (front : String) :
    Quotes (front ++ real) (front ++ dry) := by
  rcases quotes with rfl | ⟨first, back, rfl, rfl⟩
  · exact .inl rfl
  · exact .inr ⟨front ++ first, back, by simp only [String.append_assoc],
      by simp only [String.append_assoc]⟩

/-- Of commands that printed the same, and not nothing, the output is the same. -/
theorem output_congr {f g : CommandFailure} (stderr : g.stderr = f.stderr)
    (stdout : g.stdout = f.stdout) (printed : f.stdout ≠ "" ∨ f.stderr ≠ "") :
    f.output = g.output := by
  unfold CommandFailure.output CommandFailure.stderrText CommandFailure.stdoutText
  rw [stderr, stdout]
  split
  · rfl
  · next silent => rw [if_pos (printed.resolve_right silent), if_pos (printed.resolve_right silent)]

/-- The failure of a push, with what git printed. -/
def failedPush (remote ref : String) (status : Status) (stdout stderr : String) (dryRun : Bool) :
    CommandFailure :=
  ⟨"git" :: Repository.pushWords dryRun remote ref, status, stderr, stdout⟩

section Wording

variable (remote ref : String) (status : Status) (stdout stderr : String)

/-- The wording of a failed push up to the command. -/
def wordingFront : String := "Cmd('git') failed" ++ (status.clause ++ "\n  cmdline: ")

/-- The wording of a failed push from the remote on. -/
def wordingBack : String :=
  maskWord remote ++ " " ++ maskWord ref ++ streamText "stdout" stdout ++ streamText "stderr" stderr

/-- The wording of a failed push quotes the command. -/
theorem failedPush_text (dryRun : Bool) :
    (failedPush remote ref status stdout stderr dryRun).text =
      wordingFront status ++ command dryRun ++ (" " ++ wordingBack remote ref stdout stderr) := by
  have git : maskWord "git" = "git" := by decide +kernel
  have push : maskWord "push" = "push" := by decide +kernel
  have word : maskWord "--dry-run" = "--dry-run" := by decide +kernel
  have line : " ".intercalate (failedPush remote ref status stdout stderr dryRun).words =
      command dryRun ++ " " ++ (maskWord remote ++ " " ++ maskWord ref) := by
    cases dryRun <;>
      simp [failedPush, CommandFailure.words, Repository.pushWords, command, git, push, word,
        String.intercalate_cons_cons, ← String.append_assoc]
  have first : (failedPush remote ref status stdout stderr dryRun).words.headD "" = "git" := by
    rw [CommandFailure.words, failedPush, List.map_cons, List.headD_cons, git]
  have start : "Cmd('" ++ "git" ++ "') " ++ "failed" = "Cmd('git') failed" := by decide
  have regroup (start clause label command space back stdout stderr : String) :
      start ++ clause ++ label ++ (command ++ space ++ back) ++ stdout ++ stderr =
        start ++ (clause ++ label) ++ command ++ (space ++ (back ++ stdout ++ stderr)) := by
    simp only [String.append_assoc]
  -- Not `rw`, which would go on to compare the texts character by character.
  rewrite [CommandFailure.text, CommandFailure.textWith, line, first, start]
  exact regroup ..

/-- The wordings of a failed push and of a simulated one differ in the command that they quote. -/
theorem failedPush_text_quotes :
    Quotes (failedPush remote ref status stdout stderr false).text
      (failedPush remote ref status stdout stderr true).text :=
  .inr ⟨_, _, failedPush_text remote ref status stdout stderr false,
    failedPush_text remote ref status stdout stderr true⟩

/-- Without white space at their ends they still do. -/
theorem failedPush_strip_quotes :
    Quotes (Text.strip (failedPush remote ref status stdout stderr false).text)
      (Text.strip (failedPush remote ref status stdout stderr true).text) := by
  have stripped (dryRun : Bool) :
      Text.strip (failedPush remote ref status stdout stderr dryRun).text =
        wordingFront status ++ command dryRun ++
          String.ofList (Text.stripEnd (" " ++ wordingBack remote ref stdout stderr).toList) := by
    have last : Text.Trimmed (command dryRun).toList ∧ command dryRun ≠ "" := by
      cases dryRun <;> decide
    have trimmed : Text.Trimmed (wordingFront status ++ command dryRun).toList :=
      Text.Trimmed.join (by decide) last.1 (by decide) last.2 _
    have nonempty : wordingFront status ++ command dryRun ≠ "" := by
      simp [last.2]
    rewrite [failedPush_text]
    exact Text.strip_append trimmed nonempty _
  exact .inr ⟨_, _, stripped false, stripped true⟩

/-- What a failed push printed is the same for a simulated one. -/
theorem failedPush_output_eq (printed : stdout ≠ "" ∨ stderr ≠ "") :
    (failedPush remote ref status stdout stderr false).output =
      (failedPush remote ref status stdout stderr true).output :=
  output_congr rfl rfl printed

/-- Where nothing was printed, the wording takes its place. -/
theorem failedPush_output_silent (dryRun : Bool) :
    (failedPush remote ref status "" "" dryRun).output =
      (failedPush remote ref status "" "" dryRun).text := rfl

/-- A failed push and a simulated one are judged in the same way. -/
theorem failedPush_mentions {marks : List String} (apart : ∀ mark ∈ marks, Apart mark.toList) :
    mentions marks (failedPush remote ref status stdout stderr false).output =
      mentions marks (failedPush remote ref status stdout stderr true).output := by
  by_cases printed : stdout ≠ "" ∨ stderr ≠ ""
  · rw [failedPush_output_eq remote ref status stdout stderr printed]
  · -- Only where nothing was printed does the wording count, which quotes the command.
    obtain ⟨rfl, rfl⟩ : stdout = "" ∧ stderr = "" := by simpa using printed
    rw [failedPush_output_silent, failedPush_output_silent, failedPush_text, failedPush_text]
    exact mentions_command apart _ _

/-- A failed push may pass if a simulated one may. -/
theorem failedPush_isTransient :
    (failedPush remote ref status stdout stderr false).isTransient =
      (failedPush remote ref status stdout stderr true).isTransient :=
  failedPush_mentions _ _ _ _ _ fun mark member => marks_apart mark (List.mem_append_left _ member)

end Wording

/-! ### Failures -/

/-- Two failures are of the same kind, with the same operation, and both may pass or neither may.
Their messages and reasons differ in the command that they quote only. -/
inductive Alike : GitFailure → GitFailure → Prop where
  | rejected (message : String) {real dry : String} (quotes : Quotes real dry) :
      Alike ⟨.rejected real, message⟩ ⟨.rejected dry, message⟩
  | other (operation : Option String) (recoverable : Bool) {real dry : String}
      (quotes : Quotes real dry) :
      Alike ⟨.other operation recoverable, real⟩ ⟨.other operation recoverable, dry⟩

/-- The diagnosis of a push rests on its output. -/
theorem diagnose_congr {f g : CommandFailure} (same : f.output = g.output)
    (operation ref : String) : diagnose f operation ref = diagnose g operation ref := by
  simp only [diagnose, CommandFailure.isTransient, same]

/-- A failed push and a simulated one are diagnosed alike. -/
theorem diagnose_failedPush_alike (remote ref : String) (status : Status)
    (stdout stderr : String) :
    Alike (diagnose (failedPush remote ref status stdout stderr false) "push" ref)
      (diagnose (failedPush remote ref status stdout stderr true) "push" ref) := by
  have quotes : Quotes (Text.strip (failedPush remote ref status stdout stderr false).output)
      (Text.strip (failedPush remote ref status stdout stderr true).output) := by
    by_cases printed : stdout ≠ "" ∨ stderr ≠ ""
    · exact .inl (by rw [failedPush_output_eq remote ref status stdout stderr printed])
    · obtain ⟨rfl, rfl⟩ : stdout = "" ∧ stderr = "" := by simpa using printed
      exact failedPush_strip_quotes remote ref status "" ""
  have refused := failedPush_mentions remote ref status stdout stderr
    fun mark member => marks_apart mark (List.mem_append_right transientMarks member)
  have passing := failedPush_isTransient remote ref status stdout stderr
  simp only [diagnose, if_neg (show ("push" : String) ≠ "checkout" by decide), true_and, refused,
    passing]
  split
  · exact .rejected _ quotes
  · exact .other _ _ (quotes.append _)

/-! ### Runs -/

/-- How a push command ends: it prints a text, or it fails with a status and with what it
printed. -/
inductive Ending where
  | printed (out : String)
  | failed (status : Status) (stdout stderr : String)

/-- What git answers to a push that ends so. A failure names the command that was run. -/
def Ending.answer (remote ref : String) (dryRun : Bool) : Ending → Except Failure String
  | .printed out => .ok out
  | .failed status stdout stderr =>
    .error (.command (failedPush remote ref status stdout stderr dryRun))

/-- Whether a push that ends so may pass does not depend on whether it is simulated. -/
theorem Ending.mayPass_eq (remote ref : String) (e : Ending) :
    mayPass (e.answer remote ref false) = mayPass (e.answer remote ref true) := by
  cases e with
  | printed => rfl
  | failed status stdout stderr => exact failedPush_isTransient remote ref status stdout stderr

/-- The event about a push that succeeded. -/
def pushedEvent (dryRun : Bool) (remote ref : String) : Log.Event :=
  ⟨"Push%s completed to %s/%s", .info, Repository.source,
    [.text (if dryRun then " (dry-run)" else ""), .text remote, .text ref], []⟩

/-- Two events tell the same of a push and of a simulated one: the same retry after failures that
differ in the command that they quote, or success. -/
inductive Echo : Log.Event → Log.Event → Prop where
  | retry (attempt maxRetries : Nat) {real dry : Failure} (quotes : Quotes real.text dry.text) :
      Echo (Repository.retryEvent "push" attempt maxRetries real)
        (Repository.retryEvent "push" attempt maxRetries dry)
  | pushed (remote ref : String) : Echo (pushedEvent false remote ref) (pushedEvent true remote ref)

section Repositories

variable {γ : Type} (p : Program γ) (s : Repository γ) (ref : String)

/-- A push in one of the modes. -/
def pushIn (dryRun : Bool) : Except Raised Unit × Repository γ :=
  Repository.push p ref { s with dryRun := dryRun }

/-- The repository after a push was run once and then so often again, and events were told. -/
def afterPushes (dryRun : Bool) (count : Nat) (told : List Log.Event) : Repository γ :=
  { s with
      dryRun := dryRun
      git := gitAfter p (Repository.pushWords dryRun s.remote ref) (count + 1) s.git
      actions := s.actions ++
        retryTrace (Repository.pushWords dryRun s.remote ref) s.timeout 0 count
      events := s.events ++ told }

/-- The events about a row of failures that were followed by another attempt each. -/
def retryEvents (failures : List Failure) : List Log.Event :=
  failures.mapIdx fun i f => Repository.retryEvent "push" (i + 0 + 1) s.maxRetries f

variable {ends : Nat → Ending}

/-- A push of which git answers all attempts: when it stops, and what it comes to. -/
theorem pushIn_run {dryRun : Bool}
    (given : ∀ i ≤ s.maxRetries, outcome p (Repository.pushWords dryRun s.remote ref) s.git i
      = (ends i).answer s.remote ref dryRun) :
    ∃ failures,
      Stopped (outcome p (Repository.pushWords dryRun s.remote ref) s.git) s.maxRetries failures ∧
      pushIn p s ref dryRun =
        match ends failures.length with
        | .printed _ => (.ok (), afterPushes p s ref dryRun failures.length
            (retryEvents s failures ++ [pushedEvent dryRun s.remote ref]))
        | .failed status stdout stderr =>
          let f := failedPush s.remote ref status stdout stderr dryRun
          (.error (.fromCause (.git (diagnose f "push" ref)) (.command f)),
            afterPushes p s ref dryRun failures.length (retryEvents s failures)) := by
  obtain ⟨failures, stopped, run⟩ := overNetwork_run p "push"
    (Repository.pushWords dryRun s.remote ref) ref { s with dryRun := dryRun }
  refine ⟨failures, stopped, ?_⟩
  rw [given failures.length stopped.bound] at run
  rw [pushIn, Repository.push, bind_ok _ (get_run _)]
  cases last : ends failures.length with
  | printed out =>
    rw [last] at run
    rw [bind_ok _ run]
    simp only [afterPushes, ← List.append_assoc]
    rfl
  | failed status stdout stderr =>
    rw [last] at run
    rw [bind_error _ run]
    rfl

/-- The events about failures of which the wordings differ in the command only tell the same. -/
theorem retryEvents_echo {real dry : List Failure} (same : real.length = dry.length)
    (quotes : ∀ (i : Nat) (f f' : Failure), real[i]? = some f → dry[i]? = some f' →
      Quotes f.text f'.text) :
    List.Forall₂ Echo (retryEvents s real) (retryEvents s dry) := by
  rw [List.forall₂_iff_get]
  refine ⟨by simp [retryEvents, same], fun i before before' => ?_⟩
  simp only [retryEvents, List.length_mapIdx] at before before'
  simp only [retryEvents, List.get_eq_getElem, List.getElem_mapIdx]
  exact .retry _ _ (quotes i _ _ (List.getElem?_eq_getElem before)
    (List.getElem?_eq_getElem before'))

/-- The failures of the same attempt in both modes have wordings that differ in the command only. -/
theorem Ending.answer_quotes {remote ref : String} {e : Ending} {f f' : Failure}
    (real : e.answer remote ref false = .error f) (dry : e.answer remote ref true = .error f') :
    Quotes f.text f'.text := by
  cases e with
  | printed => cases real
  | failed status stdout stderr =>
    obtain rfl := Except.error.inj real
    obtain rfl := Except.error.inj dry
    exact failedPush_text_quotes remote ref status stdout stderr

/-- Simulated pushes fail as real ones do. Let git answer each attempt in the same way, whether the
push is simulated or not. Then there are as many attempts, with the same pauses in between, and as
many events, which tell the same. Both pushes succeed, or both fail alike, and with the same failure
if the last attempt printed something. -/
theorem dry_runs_fail_alike
    (given : ∀ dryRun, ∀ i ≤ s.maxRetries,
      outcome p (Repository.pushWords dryRun s.remote ref) s.git i
        = (ends i).answer s.remote ref dryRun) :
    ∃ count ≤ s.maxRetries, ∃ told told' : List Log.Event,
      (pushIn p s ref false).2 = afterPushes p s ref false count told ∧
      (pushIn p s ref true).2 = afterPushes p s ref true count told' ∧
      List.Forall₂ Echo told told' ∧
      ((pushIn p s ref false).1 = .ok () ∧ (pushIn p s ref true).1 = .ok () ∨
        ∃ status stdout stderr g g', ends count = .failed status stdout stderr ∧
          (pushIn p s ref false).1 = .error (.fromCause (.git g)
            (.command (failedPush s.remote ref status stdout stderr false))) ∧
          (pushIn p s ref true).1 = .error (.fromCause (.git g')
            (.command (failedPush s.remote ref status stdout stderr true))) ∧
          Alike g g' ∧ (stdout ≠ "" ∨ stderr ≠ "" → g = g')) := by
  obtain ⟨real, stopped, run⟩ := pushIn_run p s ref (given false)
  obtain ⟨dry, stopped', run'⟩ := pushIn_run p s ref (given true)
  -- Every attempt is judged in the same way in both modes, so both stop at the same one.
  have same : real.length = dry.length := stopped.together stopped' fun i within => by
    rw [given false i within, given true i within, Ending.mayPass_eq]
  have echo : List.Forall₂ Echo (retryEvents s real) (retryEvents s dry) := by
    refine retryEvents_echo s same fun i f f' found found' => ?_
    have within : i ≤ s.maxRetries :=
      Nat.le_trans (Nat.le_of_lt (List.getElem?_eq_some_iff.1 found).1) stopped.bound
    exact Ending.answer_quotes ((given false i within).symm.trans (stopped.answered i f found).1)
      ((given true i within).symm.trans (stopped'.answered i f' found').1)
  rw [← same] at run'
  refine ⟨real.length, stopped.bound, ?_⟩
  cases last : ends real.length with
  | printed out =>
    simp only [last] at run run'
    rw [run, run']
    exact ⟨_, _, rfl, rfl, List.rel_append echo (.cons (.pushed _ _) .nil), .inl ⟨rfl, rfl⟩⟩
  | failed status stdout stderr =>
    simp only [last] at run run'
    rw [run, run']
    refine ⟨_, _, rfl, rfl, echo, .inr ⟨_, _, _, _, _, rfl, rfl, rfl,
      diagnose_failedPush_alike s.remote ref status stdout stderr, fun printed => ?_⟩⟩
    exact diagnose_congr (failedPush_output_eq _ _ _ _ _ printed) _ _

end Repositories

/-- A repository over a git that answers as prepared. -/
def answering (answers : List Prepared) : Repository Script :=
  { Repository.unopened ⟨none, .ok [], fun word => if word = "push" then answers else []⟩
      Repository.usualTimeout with remote := "origin" }

/-- The success of a push and of a simulated one is told in other words, and these are no quotations
of the command. -/
theorem simulated_push_told_apart :
    (pushIn Script.program (answering []) "refs/tags/v1.0.0" false).2.events =
      [⟨"Push%s completed to %s/%s", .info, Repository.source,
        [.text "", .text "origin", .text "refs/tags/v1.0.0"], []⟩] ∧
    (pushIn Script.program (answering []) "refs/tags/v1.0.0" true).2.events =
      [⟨"Push%s completed to %s/%s", .info, Repository.source,
        [.text " (dry-run)", .text "origin", .text "refs/tags/v1.0.0"], []⟩] ∧
    ¬ Quotes "" " (dry-run)" := by
  refine ⟨rfl, rfl, ?_⟩
  rintro (same | ⟨front, back, empty, -⟩)
  · exact absurd same (by decide)
  · have quoted : command false = "" := by
      rw [eq_comm, String.append_eq_empty_iff, String.append_eq_empty_iff] at empty
      exact empty.1.2
    exact absurd quoted (by decide)

/-- What a git that answers as prepared gives for a push that ends so. -/
def Ending.prepared : Ending → Prepared
  | .printed out => .prints out
  | .failed status stdout stderr => .fails fun words => .command ⟨words, status, stderr, stdout⟩

/-- Each time a command is run, one answer that was prepared for it is used up. -/
theorem gitAfter_answers (words : List String) (n : Nat) (g : Script) :
    (gitAfter Script.program words n g).answers (words.headD "") =
      (g.answers (words.headD "")).drop n := by
  induction n generalizing g with
  | zero => rfl
  | succ n ih =>
    rw [gitAfter, ih, Nat.add_comm, ← List.drop_drop]
    exact congrArg (List.drop n) (if_pos rfl)

/-- Prepared endings are answered one after the other, and then every push succeeds. -/
theorem outcome_prepared (endings : List Ending) (ref : String) (dryRun : Bool) (i : Nat) :
    outcome Script.program (Repository.pushWords dryRun "origin" ref)
        (answering (endings.map Ending.prepared)).git i =
      (endings.getD i (.printed "")).answer "origin" ref dryRun := by
  have answers := gitAfter_answers (Repository.pushWords dryRun "origin" ref) i
    (answering (endings.map Ending.prepared)).git
  have left : (answering (endings.map Ending.prepared)).git.answers "push"
      = endings.map Ending.prepared := rfl
  have word : (Repository.pushWords dryRun "origin" ref).headD "" = "push" := rfl
  rw [word, left, ← List.map_drop] at answers
  have next : endings.getD i (.printed "") = (endings.drop i).headD (.printed "") := by
    rw [List.getD_eq_getElem?_getD, ← List.head?_drop, List.headD_eq_head?_getD]
  show Script.answer _ _ = _
  rw [Script.answer, word, answers, next]
  cases endings.drop i with
  | nil => rfl
  | cons e _ => cases e <;> rfl

/-- Two pushes that fail: the connection is refused to the first one, and the second one fails
without a word. -/
def refusedThenSilent : List Ending :=
  [.failed (.code 128) "" "Connection refused", .failed (.code 1) "" ""]

/-- A repository to which these pushes happen. -/
def silenced : Repository Script := answering (refusedThenSilent.map Ending.prepared)

/-- The failure that is diagnosed after a push that failed without a word. -/
def silentFailure (dryRun : Bool) : GitFailure :=
  ⟨.other (some "push") false, "git push failed for refs/tags/v1.0.0: " ++
    "Cmd('git') failed due to: exit code(1)\n  cmdline: " ++ command dryRun ++
    " origin refs/tags/v1.0.0"⟩

/-- A push that fails without a word at the second attempt fails alike if it is simulated. The
messages quote the command. -/
theorem dry_runs_fail_alike_silent :
    (∀ dryRun, (pushIn Script.program silenced "refs/tags/v1.0.0" dryRun).1 =
      .error (.fromCause (.git (silentFailure dryRun))
        (.command (failedPush "origin" "refs/tags/v1.0.0" (.code 1) "" "" dryRun)))) ∧
    Alike (silentFailure false) (silentFailure true) := by
  have given (dryRun : Bool) (i : Nat) (_ : i ≤ silenced.maxRetries) :=
    outcome_prepared refusedThenSilent "refs/tags/v1.0.0" dryRun i
  let last (dryRun : Bool) := failedPush "origin" "refs/tags/v1.0.0" (.code 1) "" "" dryRun
  have lasting (dryRun : Bool) : (last dryRun).isTransient = false := by
    have real : (last false).isTransient = false := by decide +kernel
    cases dryRun with
    | false => exact real
    | true => exact (failedPush_isTransient ..).symm.trans real
  have kept (dryRun : Bool) : mentions refusalMarks (last dryRun).output = false := by
    cases dryRun <;> decide +kernel
  have diagnosed (dryRun : Bool) :
      diagnose (last dryRun) "push" "refs/tags/v1.0.0" = silentFailure dryRun := by
    rw [diagnose, if_neg (by decide), if_neg (by simp [kept]), lasting]
    cases dryRun <;> decide +kernel
  have fails (dryRun : Bool) : (pushIn Script.program silenced "refs/tags/v1.0.0" dryRun).1 =
      .error (.fromCause (.git (silentFailure dryRun)) (.command (last dryRun))) := by
    obtain ⟨failures, stopped, run⟩ :=
      pushIn_run Script.program silenced "refs/tags/v1.0.0" (given dryRun)
    have once : failures.length = 1 := by
      refine (stopped.retried.upTo 1 (fun i early => ?_) ?_).trans rfl
      · obtain rfl := Nat.lt_one_iff.1 early
        refine (congrArg mayPass (given dryRun 0 (by decide))).trans ?_
        cases dryRun <;> decide +kernel
      · exact (congrArg mayPass (given dryRun 1 (by decide))).trans (lasting dryRun)
    rw [run, once, ← diagnosed]
    rfl
  have failure_eq {g g' : GitFailure} {f f' : Failure}
      (same : (.error (.fromCause (.git g) f) : Except Raised Unit)
        = .error (.fromCause (.git g') f')) : g = g' := by
    cases same
    rfl
  refine ⟨fails, ?_⟩
  obtain ⟨_, _, _, _, -, -, -, ends⟩ :=
    dry_runs_fail_alike Script.program silenced "refs/tags/v1.0.0" given
  rcases ends with ⟨succeeds, -⟩ | ⟨_, _, _, g, g', -, real, dry, alike, -⟩
  · cases (fails false).symm.trans succeeds
  · rw [failure_eq ((fails false).symm.trans real), failure_eq ((fails true).symm.trans dry)]
    exact alike

end ReleaseRefs.Proofs.Git
