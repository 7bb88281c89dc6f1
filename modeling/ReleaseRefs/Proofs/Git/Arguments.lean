import ReleaseRefs.Proofs.Git.Calls
import ReleaseRefs.Proofs.Git.Commands
import ReleaseRefs.Proofs.Ref.Literals

/-!
# `ReleaseRefs.Proofs.Git.Arguments`: the names that git is handed

Whoever asks for a ref to be published chooses a word on a command line of git. A word that starts
with a dash would be an option, one with a colon would push to another ref than it names, and one
with a star would stand for many refs.

- `HandsOver` says of a command over the network that its last word is a given ref, and
  `publish_handsOver` that this is so for all such commands of a publication, whatever git answers.
- `accepted_names_literal` puts this together with what is known of accepted names: the word is what
  it says, but for what the configured start of tags brings in.
-/

set_option autoImplicit false

namespace ReleaseRefs.Proofs.Git

open ReleaseRefs.Git ReleaseRefs.Proofs.Publish ReleaseRefs.Proofs.Ref
open ReleaseRefs.Publish (Call Session)
open ReleaseRefs.Publish.Publisher (publish)

/-- A command over the network ends with the ref. Nothing is said about the other commands. -/
def HandsOver (ref : String) (a : Action) : Prop :=
  ∀ words limit, a = .ran words limit →
    words.head? = some "ls-remote" ∨ words.head? = some "push" → words.getLast? = some ref

/-- Another command ends with anything. -/
theorem HandsOver.of_local {ref : String} {words : List String} {limit : Option Value}
    (listing : words.head? ≠ some "ls-remote") (push : words.head? ≠ some "push") :
    HandsOver ref (.ran words limit) := by
  rintro _ _ ⟨⟩ (network | network)
  · exact absurd network listing
  · exact absurd network push

/-- Every time a command is tried, it has the same words. -/
theorem Attempted.handsOver {k : Terms} {words : List String} {trace : List Action} {ref : String}
    (attempted : Attempted k words trace) (last : words.getLast? = some ref) :
    ∀ a ∈ trace, HandsOver ref a := by
  have ran : HandsOver ref (.ran words (some k.timeout)) := by
    rintro _ _ ⟨⟩ -
    exact last
  obtain ⟨count, -, rfl⟩ := attempted
  intro a member
  rcases List.mem_cons.1 member with rfl | again
  · exact ran
  · obtain ⟨i, -, pausedOrRan⟩ := List.mem_flatMap.1 again
    simp only [List.mem_cons, List.not_mem_nil, or_false] at pausedOrRan
    rcases pausedOrRan with rfl | rfl
    · exact nofun
    · exact ran

/-- The commands for a call that is made to publish a ref hand the ref over. -/
theorem Carries.handsOver {k : Terms} {config : Config} {kind : Ref.Kind} {name : String}
    {c : Call} {trace : List Action} (carries : Carries k c trace)
    (asked : c = localCall config name kind ∨ c = remoteCall name kind ∨
      c = .push (kind.fullRef name)) :
    ∀ a ∈ trace, HandsOver (kind.fullRef name) a := by
  rcases asked with rfl | rfl | rfl
  · cases kind with
    | branch =>
      obtain rfl : trace = [] := carries
      simp
    | tag =>
      obtain rfl : trace = _ := carries
      intro a member
      rw [List.mem_singleton.1 member]
      exact .of_local (by simp) (by simp)
  · obtain ⟨option, question⟩ :
        ∃ option, Asked k option (kind.fullRef name) trace := by
      cases kind with
      | branch => exact ⟨_, carries⟩
      | tag => exact ⟨_, carries⟩
    cases danger : danger? k.remote with
    | some what =>
      simp only [Asked, danger] at question
      simp [question]
    | none =>
      simp only [Asked, danger] at question
      exact Attempted.handsOver question rfl
  · refine Attempted.handsOver carries ?_
    rw [List.getLast?_append]
    rfl

section Publications

variable {γ : Type} (p : Program γ) {s t u : Session (Repository γ)}

/-- From one session to another the trace grows by commands that hand the ref over, if they go over
the network. -/
def HandingOver (ref : String) (s t : Session (Repository γ)) : Prop :=
  ∃ trace, t.state.actions = s.state.actions ++ trace ∧ ∀ a ∈ trace, HandsOver ref a

theorem HandingOver.of_eq {ref : String} (actions : t.state.actions = s.state.actions) :
    HandingOver ref s t :=
  ⟨[], by rw [actions, List.append_nil], fun a member => absurd member List.not_mem_nil⟩

theorem HandingOver.trans {ref : String} (first : HandingOver ref s t)
    (second : HandingOver ref t u) : HandingOver ref s u := by
  obtain ⟨xs, actions, handed⟩ := first
  obtain ⟨ys, actions', handed'⟩ := second
  refine ⟨xs ++ ys, ?_, fun a member => (List.mem_append.1 member).elim (handed a) (handed' a)⟩
  rw [actions', actions, List.append_assoc]

/-- To publish a ref is to hand it over with every command that goes over the network. -/
theorem publish_handsOver (config : Config) (kind : Ref.Kind) (name : String)
    (s : Session (Repository γ)) :
    HandingOver (kind.fullRef name) s (publish (Repository.handle p) config kind name s).2 := by
  have calling {c : Call} (s : Session (Repository γ))
      (made : c = localCall config name kind ∨ c = remoteCall name kind ∨
        c = .push (kind.fullRef name)) :
      HandingOver (kind.fullRef name) s (asked (Repository.handle p) c s) := by
    obtain ⟨trace, grown, carries⟩ := perform_carries p c { s.state with events := [] }
    exact ⟨trace, grown, carries.handsOver made⟩
  -- The calls are made in this order, and each way to end stops after one of them.
  have looked := calling s (.inl rfl)
  have queried := looked.trans (calling _ (.inr (.inl rfl)))
  have pushed : HandingOver (kind.fullRef name) s
      (afterPush (Repository.handle p) config kind name s) :=
    (queried.trans (.of_eq rfl)).trans
      (calling (beforePush (Repository.handle p) config kind name s) (.inr (.inr rfl)))
  rcases run : publish (Repository.handle p) config kind name s with ⟨r, t⟩
  cases run ▸ publish_published (Repository.handle p) config kind name s with
  | refused => exact .of_eq rfl
  | closed => exact .of_eq rfl
  | localFailed => exact looked
  | missing => exact looked
  | remoteFailed => exact queried
  | present => exact queried.trans (.of_eq rfl)
  | pushFailed => exact pushed
  | pushed => exact pushed.trans (.of_eq rfl)

end Publications

/-- What git is handed for a name that is accepted.

- Behind its start the name begins with a digit and is written with letters and digits of ASCII,
  dots, plus signs and dashes. No two dots are neighbours, and the last character is no dot.
- The full ref is a literal one: apart from the configured start of tags it has no white space and
  none of the characters that git gives a meaning. It starts neither with a dash nor with a plus
  sign, and it has no white space at its ends.
- Whatever git answers, the commands over the network that publish the ref end with this full ref,
  each time that they are tried. -/
theorem accepted_names_literal (config : Config) (kind : Ref.Kind) (name : String) {v : Version}
    (accepted : Ref.check kind config.tagPrefix name = .ok v) :
    (∃ rest, name = startOf config.tagPrefix kind ++ rest ∧ VersionText rest.toList) ∧
    Literal (configuredIn config.tagPrefix kind) (kind.fullRef name) ∧
    ∀ {γ : Type} (p : Program γ) (s : Session (Repository γ)), ∃ trace,
      (publish (Repository.handle p) config kind name s).2.state.actions
        = s.state.actions ++ trace ∧
      ∀ a ∈ trace, HandsOver (kind.fullRef name) a :=
  ⟨check_versionText accepted, check_literal accepted, fun p s =>
    publish_handsOver p config kind name s⟩

/-- A tag whose configured start has a colon and a star. -/
theorem accepted_names_literal_special_start :
    let config : Config := ⟨false, 0, ⟨"."⟩, "master", "origin", "a:b*"⟩
    Ref.check .tag config.tagPrefix "a:b*1.2.3-rc.1+7" = .ok ⟨1, 2, 3, some "rc.1", some "7"⟩ ∧
    Literal "a:b*" "refs/tags/a:b*1.2.3-rc.1+7" := by
  intro config
  have accepted : Ref.check .tag config.tagPrefix "a:b*1.2.3-rc.1+7"
      = .ok ⟨1, 2, 3, some "rc.1", some "7"⟩ :=
    ok_of_toOption (by decide +kernel)
  exact ⟨accepted, (accepted_names_literal config .tag "a:b*1.2.3-rc.1+7" accepted).2.1⟩

end ReleaseRefs.Proofs.Git
