import ReleaseRefs.Proofs.Cli.Exit
import ReleaseRefs.Proofs.Cli.Printing
import ReleaseRefs.Proofs.Ref.Literals

/-!
# `ReleaseRefs.Proofs.Cli.ResultLine`: the line about a result on standard output

The line about a result has the name of the ref and that of the remote in it, and both may bring
along what printing takes away: the start of tags and the remote are configured as one likes.

- `line_verbatim_iff`: nothing else in a line can. `accepted_verbatim_iff`: in an accepted name only
  the start of tags can.
- `onStream_taken`: a text that standard output takes is written with a line feed behind it.
- `result_line_printed` puts this together for runs: what is written, if anything is, and when that
  is the line as it stands.
-/

set_option autoImplicit false

namespace ReleaseRefs.Proofs.Cli

open ReleaseRefs.Cli ReleaseRefs.Git ReleaseRefs.Proofs.Git ReleaseRefs.Proofs.Ref

/-! ### Lines -/

/-- A line about a result is printed as it stands exactly if the name of the ref and that of the
remote are. -/
theorem line_verbatim_iff (o : Publish.Outcome) (remote : String) :
    Verbatim (o.line remote).toList ↔ Verbatim o.ref.toList ∧ Verbatim remote.toList := by
  -- Both kinds of line have the name and the remote between inert texts, the first behind a blank.
  obtain ⟨front, middle, back, line, inertFront, inertMiddle, inertBack⟩ :
      ∃ front middle back : List Char,
        (o.line remote).toList
          = front ++ (o.ref.toList ++ ' ' :: (middle ++ (remote.toList ++ back))) ∧
        Inert front ∧ Inert (' ' :: middle) ∧ Inert back := by
    obtain ⟨name, kind, pushed, dryRun⟩ := o
    cases pushed with
    | true =>
      refine ⟨(Publish.dryRunLabel dryRun ++ "Pushed " ++ kind.word ++ " ").toList,
        "to ".toList, [], ?_, ?_, by decide, by decide⟩
      · simp [Publish.Outcome.line, String.toList_append]
      · cases dryRun <;> cases kind <;> decide
    | false =>
      refine ⟨(Publish.dryRunLabel dryRun ++ "The " ++ kind.word ++ " ").toList,
        "already exists in ".toList, ", nothing to do".toList, ?_, ?_, by decide, by decide⟩
      · simp [Publish.Outcome.line, String.toList_append]
      · cases dryRun <;> cases kind <;> decide
  rw [line, verbatim_inert_append_iff inertFront,
    verbatim_append_iff (closed?_blank (by decide) (by decide) _), ← List.cons_append,
    verbatim_inert_append_iff inertMiddle, verbatim_append_inert_iff inertBack]

/-- No character of a version takes part in printing. -/
theorem inert_of_isVersionCharacter {c : Char} (known : IsVersionCharacter c) : IsInert c := by
  have point := known.point
  exact .of_point (by omega) (by omega)

/-- An accepted name is printed as it stands exactly if the start of its kind is. -/
theorem accepted_verbatim_iff {kind : Ref.Kind} {tagStart name : String} {v : Version}
    (accepted : Ref.check kind tagStart name = .ok v) :
    Verbatim name.toList ↔ Verbatim (startOf tagStart kind).toList := by
  obtain ⟨rest, rfl, text⟩ := check_versionText accepted
  have inert : Inert rest.toList := fun c member =>
    inert_of_isVersionCharacter (text.characters c member)
  rw [String.toList_append, verbatim_append_inert_iff inert]

/-! ### Standard output -/

/-- A text that standard output takes is written with a line feed behind it. -/
theorem onStream_taken {s : String} (taken : Text.Utf8.unencodable? s = none) (time : String) :
    Output.onStream time .out [.text .out s] = s ++ "\n" := by
  have whole := Text.Utf8.isWhole_of_unencodable? taken
  simp [Output.onStream, Output.stream, Output.shown, Text.escapedHalves_of_isWhole s whole]

section Runs

variable {γ : Type} (p : Program γ) (program : String) {words : List String} {m : Machine γ}
  {kind : Ref.Kind} {name : String} {config : Config} {out : Publish.Outcome}

/-- A publication with an outcome had an accepted name, and the outcome is about it. -/
theorem Returned.accepted (returned : Returned p config kind name m.git out) :
    (∃ v, Ref.check kind config.tagPrefix name = .ok v) ∧ out.ref = name := by
  obtain ⟨-, published, -⟩ := returned
  generalize (Publish.Publisher.create (Repository.handle p) config (fresh m.git)).2 = s
    at published
  have ends := Publish.publish_published (Repository.handle p) config kind name s
  rcases ran : Publish.Publisher.publish (Repository.handle p) config kind name s with ⟨r, t⟩
  rw [ran] at published ends
  cases published
  cases ends with
  | present good => exact ⟨⟨_, good⟩, rfl⟩
  | pushed good => exact ⟨⟨_, good⟩, rfl⟩

/-- A run fails whose publication comes to an outcome of which standard output does not take the
line. -/
theorem AsksFor.untaken_exit (asks : AsksFor words m kind name)
    (effective : effective? words m = some (config, kind, name))
    (returned : Returned p config kind name m.git out) (untaken : ¬ Taken m.console config out) :
    (run p program words m).1.exit = .failure := by
  obtain ⟨ending, -⟩ := run_ends p program asks
  rw [effective] at ending
  generalize (run p program words m).1.exit = exit at ending
  cases ending with
  | published same returned' taken =>
    cases same
    obtain rfl := returned.unique returned'
    exact absurd taken untaken
  | interrupted same interrupted =>
    cases same
    exact absurd interrupted returned.not_interrupted
  | failed => rfl

/-- Let a run be asked to publish a ref, and let that come to an outcome.

- If standard output takes the line, behind what earlier runs have left on the console, then the
  line, as it is printed, is the one text that the run writes to standard output, with a line feed
  behind it.
- If not, then the run writes no text to standard output, and ends with a failure.
- The printed line is the line as it stands exactly if the start of the kind of ref and the remote
  have no tab, no control character that is dropped, and no name of a picture between colons. -/
theorem result_line_printed (asks : AsksFor words m kind name)
    (effective : effective? words m = some (config, kind, name))
    (returned : Returned p config kind name m.git out) :
    let line := out.line config.remote
    let o := (run p program words m).1
    (Taken m.console config out →
      (∃ before, o.outputs = before ++ [.text .out (printed line)] ∧ ∀ s, .text .out s ∉ before) ∧
      ∀ time, Output.onStream time .out [.text .out (printed line)] = printed line ++ "\n") ∧
    (¬ Taken m.console config out → o.exit = .failure ∧ ∀ s, .text .out s ∉ o.outputs) ∧
    (printed line = line ↔
      Verbatim (startOf config.tagPrefix kind).toList ∧ Verbatim config.remote.toList) := by
  intro line o
  refine ⟨fun taken => ⟨?_, onStream_taken (taken_iff.1 taken).2⟩, fun untaken => ?_, ?_⟩
  · -- The settings and the outcome are those of the run, so what it announces is this line.
    have about : ∀ s, Announced p program words m s → s = printed line := by
      intro s told
      obtain ⟨config', out', effective', returned', rfl⟩ := asks.announced told
      cases effective.symm.trans effective'
      obtain rfl := returned.unique returned'
      rfl
    have success : o.exit = .success :=
      (asks.success_iff p program).2 ⟨config, out, effective, returned, taken⟩
    obtain ⟨late, outputs, shape⟩ := run_late p program words m
    rw [show o.outputs = early words m ++ late from outputs]
    rw [show (run p program words m).1.exit = .success from success] at shape
    generalize succeeded : ExitCode.success = exit at shape
    cases shape with
    | refused failed => exact absurd succeeded.symm failed
    | @announced os s aside told =>
      -- What was written before is log lines: early ones, and those that go to standard error.
      refine ⟨early words m ++ os, by rw [about s told, List.append_assoc], fun t member => ?_⟩
      rcases List.mem_append.1 member with first | beside
      · obtain ⟨l, log⟩ := early_logged first
        cases log
      · cases (aside _ beside).stream
  · have failure := asks.untaken_exit p program effective returned untaken
    refine ⟨failure, fun s member => ?_⟩
    -- Only a success writes a text to standard output.
    cases failure.symm.trans (run_text p program member).1
  · obtain ⟨⟨v, accepted⟩, rfl⟩ := Returned.accepted p returned
    rw [printed_eq_self_iff, line_verbatim_iff, accepted_verbatim_iff accepted]

end Runs

/-- A rehearsal before a remote that goes by the name of a picture. The picture is written. -/
theorem result_line_printed_picture :
    let o := (run (keeping ["release-1.0"] []) "cli"
      ["branch", "release-1.0", "--remote", ":100:"] bareRemote).1
    (rehearsed "release-1.0").line ":100:" = "[dry-run] Pushed branch release-1.0 to :100:" ∧
    (∃ before, o.outputs = before ++ [.text .out "[dry-run] Pushed branch release-1.0 to 💯"] ∧
      ∀ s, .text .out s ∉ before) ∧
    ¬ Verbatim ":100:".toList := by
  intro o
  have asks : AsksFor ["branch", "release-1.0", "--remote", ":100:"] bareRemote .branch
      "release-1.0" :=
    ⟨⟨none, 0, false⟩, ["release-1.0", "--remote", ":100:"],
      ⟨"release-1.0", none, none, none, some ":100:"⟩,
      ok_of_toOption (by decide +kernel), ok_of_toOption (by decide +kernel), rfl⟩
  have effective : effective? ["branch", "release-1.0", "--remote", ":100:"] bareRemote
      = some (rehearsal ":100:", .branch, "release-1.0") := by decide +kernel
  have returned : Returned (keeping ["release-1.0"] []) (rehearsal ":100:") .branch "release-1.0"
      bareRemote.git (rehearsed "release-1.0") :=
    publishing_eq_ok_iff.1 (ok_of_toOption (by decide +kernel))
  have taken : Taken bareRemote.console (rehearsal ":100:") (rehearsed "release-1.0") := by
    unfold Taken
    decide +kernel
  have shown : printed ((rehearsed "release-1.0").line ":100:")
      = "[dry-run] Pushed branch release-1.0 to 💯" := by decide +kernel
  have line : (rehearsed "release-1.0").line ":100:"
      = "[dry-run] Pushed branch release-1.0 to :100:" := by decide
  obtain ⟨written, -, same⟩ := result_line_printed (keeping ["release-1.0"] []) "cli" asks effective
    returned
  refine ⟨line, shown ▸ (written taken).1, fun verbatim => ?_⟩
  have unchanged := same.2 ⟨.of_inert (by decide), verbatim⟩
  have changed := (shown.symm.trans unchanged).trans line
  exact absurd changed (by decide)

end ReleaseRefs.Proofs.Cli
