import ReleaseRefs.Proofs.Git.Listing
import ReleaseRefs.Proofs.Git.Retries
import ReleaseRefs.Proofs.Publish.Publication

/-!
# `ReleaseRefs.Proofs.Git.Lookups`: which refs are found

Refs are looked up by name in what git prints, on the remote and in the local repository. The two
look-ups read the text in different ways.

- `Answered` says that git prints a text for a network command in the end.
  `remote_lookups_exact`: the remote is found to have a ref exactly if a row of the listing is for
  that very ref.
- `tagsOnBranch_printed`: the tags on a branch are the lines that were printed, without white space
  at their ends. `local_tags_matched_stripped`: a tag is looked up on the remote exactly if its name
  is one of these.
-/

set_option autoImplicit false

namespace ReleaseRefs.Proofs.Git

open ReleaseRefs.Git ReleaseRefs.Proofs.Publish ReleaseRefs.Publish.Publisher
open ReleaseRefs.Publish (Session)

section Repositories

variable {γ : Type} (p : Program γ)

/-! ### On the remote -/

/-- In the end git prints a text for a command: after failures that may pass, at most as many as
there are retries. -/
def Answered (words : List String) (s : Repository γ) (out : String) : Prop :=
  ∃ n ≤ s.maxRetries, (∀ i < n, mayPass (outcome p words s.git i) = true) ∧
    outcome p words s.git n = .ok out

variable {p} in
/-- A network command goes on from what git prints in the end. -/
theorem RetriedTo.answered {α : Type} {operation ref out : String} {words : List String}
    {next : String → Job γ α} {s : Repository γ} {run : Except Raised α × Repository γ}
    (retriedTo : RetriedTo p operation words ref next s run) (answered : Answered p words s out) :
    ∃ t, run = next out t := by
  obtain ⟨failures, retried, result, -⟩ := retriedTo
  obtain ⟨n, within, earlier, printed⟩ := answered
  have used : failures.length = n := by
    rw [retried.upTo n earlier (by rw [printed]; rfl), Nat.min_eq_left within]
  rw [used, printed] at result
  exact ⟨_, result⟩

/-- A look-up on a remote finds the refs that git lists. -/
theorem hasRemoteRef_listed (kind : Ref.Kind) (name : String) {s : Repository γ} {out : String}
    {lines : List Line} (safe : danger? s.remote = none)
    (answered : Answered p (listWords kind s.remote (kind.fullRef name)) s out)
    (prints : Prints out (lines.map Line.text)) (sound : ∀ line ∈ lines, line.Sound) :
    (Repository.hasRemoteRef p kind name s).1
      = .ok (decide (kind.fullRef name ∈ lines.filterMap Line.ref?)) := by
  obtain ⟨t, run⟩ := (hasRemoteRef_retriedTo p kind name safe).answered answered
  have found : Repository.listingHas out (kind.fullRef name)
      = decide (kind.fullRef name ∈ lines.filterMap Line.ref?) := by
    rw [Bool.eq_iff_iff, listingHas_lines_iff prints sound, decide_eq_true_eq]
  rw [run, ← found]
  rfl

/-- Look-ups on the remote are exact. Let git print a listing in the end, of rows for refs and of
other lines in any order. Then the remote is found to have a branch or a tag exactly if one of the
rows is for its full ref. -/
theorem remote_lookups_exact (s : Repository γ) (name : String) {out : String} {lines : List Line}
    (safe : danger? s.remote = none) (prints : Prints out (lines.map Line.text))
    (sound : ∀ line ∈ lines, line.Sound) :
    (Answered p ["ls-remote", "--heads", s.remote, "refs/heads/" ++ name] s out →
      (Repository.perform p (.hasRemoteBranch name) s).1
        = .ok (decide ("refs/heads/" ++ name ∈ lines.filterMap Line.ref?))) ∧
    (Answered p ["ls-remote", "--tags", s.remote, "refs/tags/" ++ name] s out →
      (Repository.perform p (.hasRemoteTag name) s).1
        = .ok (decide ("refs/tags/" ++ name ∈ lines.filterMap Line.ref?))) :=
  ⟨fun answered => hasRemoteRef_listed p .branch name safe answered prints sound,
    fun answered => hasRemoteRef_listed p .tag name safe answered prints sound⟩

end Repositories

/-- A listing that git prints after a failure, with a line that is no row, refs of both kinds, a
peeled tag and a branch that ends like another ref. -/
def mixedListing : List Line :=
  [.other "From origin", .row "a1" "refs/heads/release-1.0" true, .other "",
    .row "b2" "refs/tags/v1.0.0" false, .row "c3" "refs/tags/v1.0.1^{}" false,
    .row "d4" "refs/heads/old/refs/heads/release-1.1" false]

/-- A repository of which the remote lists refs at the second attempt. -/
def mixedRemote : Repository Script :=
  let prepared : List Prepared := [.fails fun words => .command ⟨words, .code 128, "early EOF", ""⟩,
    .prints ("\n".intercalate (mixedListing.map Line.text))]
  { Repository.unopened ⟨none, .ok [], fun word => if word = "ls-remote" then prepared else []⟩
      Repository.usualTimeout with remote := "origin" }

/-- A branch and a tag that are listed are found. Neither the same name in the other namespace nor a
peeled tag nor the end of a longer ref is. -/
theorem remote_lookups_exact_mixed :
    (Repository.perform Script.program (.hasRemoteBranch "release-1.0") mixedRemote).1 = .ok true ∧
    (Repository.perform Script.program (.hasRemoteTag "v1.0.0") mixedRemote).1 = .ok true ∧
    (Repository.perform Script.program (.hasRemoteTag "release-1.0") mixedRemote).1 = .ok false ∧
    (Repository.perform Script.program (.hasRemoteTag "v1.0.1") mixedRemote).1 = .ok false ∧
    (Repository.perform Script.program (.hasRemoteBranch "release-1.1") mixedRemote).1
      = .ok false := by
  have prints : Prints ("\n".intercalate (mixedListing.map Line.text))
      (mixedListing.map Line.text) := .inl rfl
  have sound : ∀ line ∈ mixedListing, line.Sound := by decide +kernel
  have lookups (name : String) :=
    remote_lookups_exact Script.program mixedRemote name rfl prints sound
  have answered (option ref : String) : Answered Script.program ["ls-remote", option, "origin", ref]
      mixedRemote ("\n".intercalate (mixedListing.map Line.text)) := by
    refine ⟨1, by decide, fun i early => ?_, rfl⟩
    obtain rfl := Nat.lt_one_iff.1 early
    show mentions transientMarks "\n  stderr: 'early EOF'" = true
    decide +kernel
  refine ⟨?_, ?_, ?_, ?_, ?_⟩
  · exact (lookups "release-1.0").1 (answered _ _)
  · exact (lookups "v1.0.0").2 (answered _ _)
  · exact (lookups "release-1.0").2 (answered _ _)
  · exact (lookups "v1.0.1").2 (answered _ _)
  · exact (lookups "release-1.1").1 (answered _ _)

/-! ### In the local repository -/

section Repositories

variable {γ : Type} (p : Program γ)

/-- The tags on a branch are the tags that git prints, without white space at their ends. -/
theorem tagsOnBranch_printed {branch out : String} {tags : List String} {s : Repository γ}
    (answered : (p.run (tagWords branch) s.git).1 = .ok out) (prints : Prints out tags)
    (whole : ∀ tag ∈ tags, '\n' ∉ tag.toList) :
    (Repository.tagsOnBranch p branch s).1 = .ok (strippedNames tags) := by
  rcases (tagsOnBranch_did p s branch).2 with ⟨f, _, failed, -⟩ | ⟨printed, same, result⟩
  · cases answered.symm.trans failed
  · obtain rfl := Except.ok.inj (answered.symm.trans same)
    rw [result, namesIn_of_prints prints whole]

/-- Tags are matched by their names without white space at the ends. Let git print the tags of the
default branch. Then the tags that are found are these names, which are the printed ones exactly if
none of those has white space at its ends. A tag with an accepted name is looked up on the remote if
its name is one of them, and reported missing if not. -/
theorem local_tags_matched_stripped (config : Config) {name out : String} {v : Version}
    {tags : List String} {s : Session (Repository γ)}
    (good : Ref.check .tag config.tagPrefix name = .ok v) (there : s.released = false)
    (answered : (p.run (tagWords config.defaultBranch) s.state.git).1 = .ok out)
    (prints : Prints out tags) (whole : ∀ tag ∈ tags, '\n' ∉ tag.toList) :
    (Repository.perform p (.tagsOnBranch config.defaultBranch) s.state).1
      = .ok (strippedNames tags) ∧
    (strippedNames tags = tags ↔ ∀ tag ∈ tags, tag ≠ "" ∧ Text.Trimmed tag.toList) ∧
    (name ∈ tags.map Text.strip →
      ∃ r, s.exchanges ++ [⟨.tagsOnBranch config.defaultBranch, .ok (strippedNames tags)⟩,
          ⟨.hasRemoteTag name, r⟩] <+:
        (publish (Repository.handle p) config .tag name s).2.exchanges) ∧
    (name ∉ tags.map Text.strip →
      (publish (Repository.handle p) config .tag name s).1
        = .error (missingFailure config .tag name) ∧
      (publish (Repository.handle p) config .tag name s).2.exchanges
        = s.exchanges ++ [⟨.tagsOnBranch config.defaultBranch, .ok (strippedNames tags)⟩]) := by
  have listed : ((Repository.handle p).answer (localCall config name .tag) s.state).result
      = .ok (strippedNames tags) := tagsOnBranch_printed p answered prints whole
  have matched := mem_strippedNames tags (Ref.check_ne_empty good)
  refine ⟨tagsOnBranch_printed p answered prints whole, strippedNames_eq_self_iff,
    fun member => ?_, fun missing => ?_⟩
  · have found : LocalSays (Repository.handle p) config .tag name s true :=
      ⟨_, listed, List.contains_iff_mem.2 (matched.2 member)⟩
    exact ⟨_, afterRemote_trace listed ▸ publish_asks good there found⟩
  · have absent : LocalSays (Repository.handle p) config .tag name s false := by
      refine ⟨_, listed, eq_false_of_ne_true fun found => missing (matched.1 ?_)⟩
      exact List.contains_iff_mem.1 found
    rw [publish_missing good there absent]
    exact ⟨rfl, by rw [afterLocal, asked_exchanges, listed]; rfl⟩

end Repositories

/-- A repository with two tags, the first of which ends in a wide blank. -/
def wideTags : Repository Script :=
  let prepared : List Prepared := [.prints "v1.0.0\u3000\nv0.9.0"]
  .unopened ⟨none, .ok [], fun word => if word = "tag" then prepared else []⟩
    Repository.usualTimeout

/-- A tag that git did not print is taken for one that differs from it by a blank, and looked up on
the remote. Any other one is reported missing. -/
theorem local_tags_matched_stripped_wide :
    "v1.0.0" ∉ ["v1.0.0\u3000", "v0.9.0"] ∧
    (Repository.perform Script.program (.tagsOnBranch "master") wideTags).1
      = .ok ["v1.0.0", "v0.9.0"] ∧
    (∃ r, [⟨.tagsOnBranch "master", .ok ["v1.0.0", "v0.9.0"]⟩, ⟨.hasRemoteTag "v1.0.0", r⟩] <+:
      (publish (Repository.handle Script.program) ⟨false, 0, ⟨"."⟩, "master", "origin", "v"⟩ .tag
        "v1.0.0" (.start wideTags)).2.exchanges) ∧
    (publish (Repository.handle Script.program) ⟨false, 0, ⟨"."⟩, "master", "origin", "v"⟩ .tag
        "v1.0.1" (.start wideTags)).1
      = .error (missingFailure ⟨false, 0, ⟨"."⟩, "master", "origin", "v"⟩ .tag "v1.0.1") := by
  have names : strippedNames ["v1.0.0\u3000", "v0.9.0"] = ["v1.0.0", "v0.9.0"] := by
    decide +kernel
  have prints : Prints "v1.0.0\u3000\nv0.9.0" ["v1.0.0\u3000", "v0.9.0"] := .inl rfl
  have matched (name : String) (v : Version) (good : Ref.check .tag "v" name = .ok v) :=
    local_tags_matched_stripped Script.program ⟨false, 0, ⟨"."⟩, "master", "origin", "v"⟩
      (s := .start wideTags) good rfl rfl prints (by decide)
  rw [names] at matched
  have asked := matched "v1.0.0" ⟨1, 0, 0, none, none⟩ rfl
  have missing := matched "v1.0.1" ⟨1, 0, 1, none, none⟩ rfl
  exact ⟨by decide, asked.1, asked.2.2.1 (by decide +kernel), (missing.2.2.2 (by decide +kernel)).1⟩

end ReleaseRefs.Proofs.Git
