import ReleaseRefs.Proofs.Publish.Publication
import ReleaseRefs.Publish.Memory

/-!
# `ReleaseRefs.Proofs.Publish.PushSafety`: nothing is pushed unasked

A push changes the remote, and nothing takes it back. So a push has to come out of a request for
that very ref, right after the two look-ups that allow it: the local repository has the ref, and the
remote does not. `run_push_cleared` says so of every run with a publisher.

The handle is arbitrary. It may answer every call in any way or fail in any way, and what it answers
may depend on everything it was asked. A run creates a publisher and performs steps, each whatever
the earlier ones came to. Steps nest: `Step.block` gives the repository back at its end, and
`Step.caught` goes on after a failure inside.

- `Cleared` is the row of two exchanges that allows a push, with the ref that may then be pushed.
- `Begins` says in which session a step inside another one is begun, `RunBegins` the same for a run.
- `Guarded` is the invariant: the trace only grows, and each new push is `Licensed`. It holds from
  the start of each step to its end (`perform_guarded`), by induction on the step, because it holds
  of publishing one ref (`publish_guarded`) and every other operation makes no push at all.
-/

set_option autoImplicit false

namespace ReleaseRefs.Proofs.Publish

open ReleaseRefs.Publish ReleaseRefs.Publish.Publisher

variable {σ : Type}

/-- The repository answers a row of calls as the exchanges say, one after the other. -/
def Answers (h : Handle σ) : σ → List Exchange → σ → Prop
  | state, [], after => after = state
  | state, x :: xs, after =>
    (h.answer x.call state).result = x.result ∧ Answers h (h.answer x.call state).state xs after

/-- The two look-ups that allow a push, and the ref that they allow to push: the local repository
has the ref under exactly its name, and the remote does not have it. -/
inductive Cleared (config : Config) : Ref.Kind → String → List Exchange → String → Prop where
  | branch (name : String) :
      Cleared config .branch name
        [⟨.hasLocalBranch name, .ok true⟩, ⟨.hasRemoteBranch name, .ok false⟩]
        ("refs/heads/" ++ name)
  | tag (name : String) (tags : List String) (listed : name ∈ tags) :
      Cleared config .tag name
        [⟨.tagsOnBranch config.defaultBranch, .ok tags⟩, ⟨.hasRemoteTag name, .ok false⟩]
        ("refs/tags/" ++ name)

/-- While a step is performed from a session, a step inside it is begun in a later session. -/
inductive Begins (h : Handle σ) (config : Config) :
    Step σ → Session σ → Step σ → Session σ → Prop where
  | itself (step : Step σ) (s : Session σ) : Begins h config step s step s
  | inBlock {front rest : List (Step σ)} {step inner : Step σ} {s t u : Session σ}
      {ys : List Yield} (before : performAll h config front s = (.ok ys, t))
      (begins : Begins h config step t inner u) :
      Begins h config (.block (front ++ step :: rest)) s inner u
  | inCaught {front rest : List (Step σ)} {step inner : Step σ} {s t u : Session σ}
      {ys : List Yield} (before : performAll h config front s = (.ok ys, t))
      (begins : Begins h config step t inner u) :
      Begins h config (.caught (front ++ step :: rest)) s inner u

/-- In a run that starts from a session, a step is begun in a later one. -/
def RunBegins (h : Handle σ) (config : Config) (steps : List (Step σ)) (s : Session σ)
    (inner : Step σ) (u : Session σ) : Prop :=
  ∃ front step rest t, steps = front ++ step :: rest ∧ create h config s = (.ok (), t) ∧
    Begins h config step (Work.each (front.map (perform h config)) t).2 inner u

/-! ### The invariant -/

section Invariant

variable (h : Handle σ) (config : Config)

/-- A push of a ref, after the exchanges `before`, belongs to a request for the ref that was begun,
and the two exchanges just before it allow it. -/
def Licensed (begun : Ref.Kind → String → Session σ → Prop) (before : List Exchange) (ref : String)
    (r : Except Raised Unit) : Prop :=
  ∃ kind name v s queries, begun kind name s ∧
    Ref.check kind config.tagPrefix name = .ok v ∧ Cleared config kind name queries ref ∧
    before = s.exchanges ++ queries ∧
    (publish h config kind name s).2.exchanges = before ++ [⟨.push ref, r⟩]

/-- From one session to another the trace only grows, and every push that is new is licensed. -/
structure Guarded (begun : Ref.Kind → String → Session σ → Prop) (s t : Session σ) : Prop where
  grows : s.exchanges <+: t.exchanges
  pushes : ∀ i ref r, s.exchanges.length ≤ i → t.exchanges[i]? = some ⟨.push ref, r⟩ →
    Licensed h config begun (t.exchanges.take i) ref r

variable {h config} {begun : Ref.Kind → String → Session σ → Prop} {s t u : Session σ}

/-- An operation whose new calls are no pushes is guarded. -/
theorem Guarded.of_append {made : List Exchange} (trace : t.exchanges = s.exchanges ++ made)
    (quiet : ∀ x ∈ made, x.call.method ≠ .push) : Guarded h config begun s t where
  grows := ⟨made, trace.symm⟩
  pushes i ref r le found := by
    rw [trace, List.getElem?_append_right le] at found
    exact absurd rfl (quiet _ (List.mem_of_getElem? found))

/-- An operation without calls is guarded. -/
theorem Guarded.of_eq (trace : t.exchanges = s.exchanges) : Guarded h config begun s t := by
  have same : t.exchanges = s.exchanges ++ [] := by rw [trace, List.append_nil]
  exact .of_append same (by simp)

/-- What is guarded up to a session and from there on is guarded as a whole. -/
theorem Guarded.trans (first : Guarded h config begun s t) (second : Guarded h config begun t u) :
    Guarded h config begun s u where
  grows := first.grows.trans second.grows
  pushes i ref r le found := by
    by_cases new : t.exchanges.length ≤ i
    · exact second.pushes i ref r new found
    · -- The push stands in the trace of the middle session, with the same calls before it.
      obtain ⟨made, trace⟩ := second.grows
      have old : i < t.exchanges.length := Nat.lt_of_not_le new
      rw [← trace, List.getElem?_append_left old] at found
      rw [← trace, List.take_append_of_le_length (Nat.le_of_lt old)]
      exact first.pushes i ref r le found

/-- A push stays licensed if more requests count as begun. -/
theorem Guarded.mono {begun' : Ref.Kind → String → Session σ → Prop}
    (more : ∀ kind name v, begun kind name v → begun' kind name v)
    (guarded : Guarded h config begun s t) : Guarded h config begun' s t where
  grows := guarded.grows
  pushes i ref r le found := by
    obtain ⟨kind, name, v, v', queries, began, rest⟩ := guarded.pushes i ref r le found
    exact ⟨kind, name, v, v', queries, more _ _ _ began, rest⟩

end Invariant

/-! ### One operation -/

section Operations

variable (h : Handle σ) (config : Config)

/-- To give the repository back is no push. -/
theorem close_guarded (begun : Ref.Kind → String → Session σ → Prop) (s : Session σ) :
    Guarded h config begun s (close h s).2 := by
  rw [close_run]
  split
  · exact .of_eq rfl
  · exact .of_append rfl (by simp [Call.method])

/-- A preparation makes no push. -/
theorem Prepared.guarded {begun : Ref.Kind → String → Session σ → Prop} {s t : Session σ}
    {r : Except Raised Unit} (prepared : Prepared h config s (r, t)) :
    Guarded h config begun s t := by
  have checkout : Guarded h config begun s (checkedOut h config s) :=
    .of_append rfl (by simp [Call.method])
  have dryRun : Guarded h config begun s (dryRunSet h config s) :=
    checkout.trans (.of_append (by simp [dryRunSet]; rfl) (by simp [Call.method]))
  have retries : Guarded h config begun s (retriesSet h config s) :=
    dryRun.trans (.of_append rfl (by simp [Call.method]))
  cases prepared with
  | checkoutFailed => exact checkout
  | dryRunFailed => exact dryRun
  | retriesFailed => exact retries
  | ready => exact retries

/-- Opening and preparing a repository makes no push. -/
theorem create_guarded (begun : Ref.Kind → String → Session σ → Prop) (s : Session σ) :
    Guarded h config begun s (create h config s).2 := by
  have opening : Guarded h config begun s (opened h config s) := .of_eq rfl
  rcases hc : create h config s with ⟨r, t⟩
  have created := hc ▸ create_created h config s
  cases created with
  | unopened => exact opening
  | ready _ prepared => exact opening.trans prepared.guarded
  | unprepared _ prepared =>
    exact (opening.trans prepared.guarded).trans (close_guarded h config begun _)

/-- Once both look-ups have allowed it, the trace goes on with the two of them and the push. -/
theorem afterPush_exchanges {kind : Ref.Kind} {name : String} {s : Session σ}
    (found : LocalSays h config kind name s true)
    (present : RemoteSays h config kind name s false) :
    ∃ queries, Cleared config kind name queries (kind.fullRef name) ∧
      (afterRemote h config kind name s).exchanges = s.exchanges ++ queries ∧
      (afterPush h config kind name s).exchanges = s.exchanges ++ queries ++
        [⟨.push (kind.fullRef name),
          (h.answer (.push (kind.fullRef name)) (afterRemote h config kind name s).state).result⟩]
    := by
  obtain ⟨a, looked, isThere⟩ := found
  obtain ⟨b, asking, isAbsent⟩ := present
  have trace : (afterRemote h config kind name s).exchanges = s.exchanges ++
      [⟨localCall config name kind, .ok a⟩, ⟨remoteCall name kind, .ok b⟩] := by
    rw [afterRemote_trace looked, asking]
  refine ⟨_, ?_, trace, ?_⟩
  · cases kind with
    | branch =>
      obtain rfl : a = true := isThere
      obtain rfl : b = false := isAbsent
      exact .branch name
    | tag =>
      obtain rfl : b = false := isAbsent
      exact .tag name a (List.contains_iff_mem.1 isThere)
  · rw [← trace]
    rfl

/-- If the handle answers the two look-ups so, then it has the ref, and the remote does not. -/
theorem says_of_cleared {h : Handle σ} {config : Config} {kind : Ref.Kind} {name ref : String}
    {queries : List Exchange} {s : Session σ} {after : σ}
    (cleared : Cleared config kind name queries ref) (answers : Answers h s.state queries after) :
    LocalSays h config kind name s true ∧ RemoteSays h config kind name s false ∧
      ref = kind.fullRef name ∧ after = (afterRemote h config kind name s).state ∧
      (afterRemote h config kind name s).exchanges = s.exchanges ++ queries := by
  cases cleared with
  | branch =>
    obtain ⟨found, absent, rfl⟩ := answers
    refine ⟨⟨true, found, rfl⟩, ⟨false, absent, rfl⟩, rfl, rfl, ?_⟩
    simp [afterRemote, afterLocal, localCall, remoteCall, found, absent]
  | tag _ tags listed =>
    obtain ⟨found, absent, rfl⟩ := answers
    refine ⟨⟨tags, found, List.contains_iff_mem.2 listed⟩, ⟨false, absent, rfl⟩, rfl, rfl, ?_⟩
    simp [afterRemote, afterLocal, localCall, remoteCall, found, absent]

/-- Publishing one ref is guarded: its only push is the one that its own look-ups allow. -/
theorem publish_guarded (kind : Ref.Kind) (name : String) (s : Session σ) :
    Guarded h config (fun k n u => k = kind ∧ n = name ∧ u = s) s
      (publish h config kind name s).2 := by
  have quietLocal := (localCall_method config name kind).1
  have quietRemote := (remoteCall_method name kind).1
  have looked : Guarded h config (fun k n u => k = kind ∧ n = name ∧ u = s) s
      (afterLocal h config kind name s) := .of_append rfl (by simpa using quietLocal)
  have queried : Guarded h config (fun k n u => k = kind ∧ n = name ∧ u = s) s
      (afterRemote h config kind name s) :=
    looked.trans (.of_append rfl (by simpa using quietRemote))
  -- Both ends with a push leave the trace of `afterPush`.
  have push {v : Version} (good : Ref.check kind config.tagPrefix name = .ok v)
      (found : LocalSays h config kind name s true)
      (present : RemoteSays h config kind name s false)
      (same : (publish h config kind name s).2.exchanges
        = (afterPush h config kind name s).exchanges) :
      Guarded h config (fun k n u => k = kind ∧ n = name ∧ u = s) s
        (publish h config kind name s).2 := by
    obtain ⟨queries, cleared, before, trace⟩ := afterPush_exchanges h config found present
    refine queried.trans ⟨⟨_, by rw [same, trace, before]⟩, fun i ref r le got => ?_⟩
    rw [same, trace, ← before, List.getElem?_append_right le] at got
    have last : i = (afterRemote h config kind name s).exchanges.length := by
      have := (List.getElem?_eq_some_iff.1 got).1
      simp only [List.length_singleton] at this
      omega
    subst last
    simp only [Nat.sub_self, List.getElem?_cons_zero, Option.some.injEq] at got
    rw [same, trace, ← before, List.take_left]
    cases got
    exact ⟨kind, name, v, s, queries, ⟨rfl, rfl, rfl⟩, good, cleared, before,
      by rw [same, trace, before]⟩
  rcases hp : publish h config kind name s with ⟨r, t⟩
  have published := hp ▸ publish_published h config kind name s
  rw [hp] at push
  cases published with
  | refused => exact .of_eq rfl
  | closed => exact .of_eq rfl
  | localFailed => exact looked
  | missing => exact looked
  | remoteFailed => exact queried
  | present => exact queried.trans (.of_eq rfl)
  | pushFailed good _ found present => exact push good found present rfl
  | pushed good _ found present => exact push good found present rfl

end Operations

/-! ### Steps and runs -/

section Runs

variable (h : Handle σ) (config : Config)

/-- While steps are performed up to the first that fails, a step inside one of them is begun. -/
def BeginsAmong (steps : List (Step σ)) (s : Session σ) (inner : Step σ) (u : Session σ) : Prop :=
  ∃ front step rest ys t, steps = front ++ step :: rest ∧
    performAll h config front s = (.ok ys, t) ∧ Begins h config step t inner u

/-- What is done with the answer of a computation does not change the session. -/
theorem map_run_snd {α β : Type} (w : Work σ α) (f : α → β) (s : Session σ) :
    (w >>= fun a => pure (f a)) s = ((w s).1.map f, (w s).2) := by
  rw [bind_eq]
  rcases w s with ⟨_ | _, _⟩ <;> rfl

/-- The steps after the first go on from where the first one succeeded. -/
theorem performAll_cons (step : Step σ) (steps : List (Step σ)) (s : Session σ) :
    performAll h config (step :: steps) s =
      match perform h config step s with
      | (.ok y, t) =>
        ((performAll h config steps t).1.map (y :: ·), (performAll h config steps t).2)
      | (.error e, t) => (.error e, t) := by
  rw [performAll, bind_eq]
  rcases perform h config step s with ⟨_ | y, t⟩
  · rfl
  · exact map_run_snd _ _ _

-- On the nesting of steps: a block and a catch are guarded because the steps inside them are.
mutual

/-- A step is guarded: each of its pushes belongs to a request that is begun inside it. -/
theorem perform_guarded (step : Step σ) (s : Session σ) :
    Guarded h config (fun k n u => Begins h config step s (.publish k n) u) s
      (perform h config step s).2 := by
  cases step with
  | publish kind name =>
    rw [perform, map_run_snd]
    refine (publish_guarded h config kind name s).mono ?_
    rintro _ _ _ ⟨rfl, rfl, rfl⟩
    exact .itself _ _
  | close =>
    rw [perform, map_run_snd]
    exact close_guarded h config _ s
  | inspect => exact .of_eq rfl
  | block steps =>
    rw [perform, closing_snd, map_run_snd]
    refine Guarded.trans ((performAll_guarded steps s).mono ?_) (close_guarded h config _ _)
    rintro _ _ _ ⟨front, step, rest, ys, t, rfl, before, begins⟩
    exact .inBlock before begins
  | caught steps =>
    rw [perform]
    refine (performAll_guarded steps s).mono ?_
    rintro _ _ _ ⟨front, step, rest, ys, t, rfl, before, begins⟩
    exact .inCaught before begins
  | fail r => exact .of_eq rfl
  | alter f => exact .of_eq rfl

/-- Steps up to the first that fails are guarded. -/
theorem performAll_guarded (steps : List (Step σ)) (s : Session σ) :
    Guarded h config (fun k n u => BeginsAmong h config steps s (.publish k n) u) s
      (performAll h config steps s).2 := by
  match steps with
  | [] => exact .of_eq rfl
  | step :: steps =>
    have first : Guarded h config
        (fun k n u => BeginsAmong h config (step :: steps) s (.publish k n) u) s
        (perform h config step s).2 :=
      (perform_guarded step s).mono fun _ _ _ begins => ⟨[], step, steps, [], s, rfl, rfl, begins⟩
    rw [performAll_cons]
    rcases hp : perform h config step s with ⟨e | y, t⟩
    · rw [hp] at first
      exact first
    · rw [hp] at first
      refine first.trans ((performAll_guarded steps t).mono ?_)
      rintro _ _ _ ⟨front, inner, rest, ys, u, rfl, before, begins⟩
      -- What begins among the later steps has the first step in front of it.
      refine ⟨step :: front, inner, rest, y :: ys, u, rfl, ?_, begins⟩
      rw [performAll_cons, hp]
      simp only [before]
      rfl

end

/-- Steps that are performed one after the other, whatever the earlier ones came to, are guarded. -/
theorem each_guarded (steps : List (Step σ)) (s : Session σ) :
    Guarded h config
      (fun k n u => ∃ front step rest, steps = front ++ step :: rest ∧
        Begins h config step (Work.each (front.map (perform h config)) s).2 (.publish k n) u)
      s (Work.each (steps.map (perform h config)) s).2 := by
  induction steps generalizing s with
  | nil => exact .of_eq rfl
  | cons step steps ih =>
    refine Guarded.trans ((perform_guarded h config step s).mono ?_)
      ((ih (perform h config step s).2).mono ?_)
    · intro _ _ _ begins
      exact ⟨[], step, steps, rfl, begins⟩
    · rintro _ _ _ ⟨front, inner, rest, rfl, begins⟩
      exact ⟨step :: front, inner, rest, rfl, begins⟩

theorem run_guarded (steps : List (Step σ)) (s : Session σ) :
    Guarded h config (fun k n u => RunBegins h config steps s (.publish k n) u) s
      (run h config steps s).2 := by
  have creating := create_guarded h config
    (fun k n u => RunBegins h config steps s (.publish k n) u) s
  unfold run createThen
  rcases hc : create h config s with ⟨e | _, t⟩ <;> rw [hc] at creating
  · rw [bind_error _ hc]
    exact creating
  · rw [bind_ok _ hc]
    refine creating.trans ((each_guarded h config steps t).mono ?_)
    rintro _ _ _ ⟨front, step, rest, rfl, begins⟩
    exact ⟨front, step, rest, t, rfl, hc, begins⟩

end Runs

/-- Pushes of a run are safe, complete and silent about bad names.

For every handle, every configuration and every run that starts from a fresh session:

- each push in the trace of calls was made for a ref that a step of the run was publishing. The
  ref's name is accepted, the two calls just before the push are the look-ups that `Cleared` lists
  with their answers, and the publication ends its calls with the push;
- a ref with an accepted name, on a session whose repository was not given back, is pushed exactly
  once if the two look-ups answer so;
- a name that is not accepted makes no call and changes nothing. -/
theorem run_push_cleared (h : Handle σ) (config : Config) :
    (∀ (steps : List (Step σ)) (state : σ) (before after : List Exchange) (ref : String)
        (r : Except Raised Unit),
      (run h config steps (.start state)).2.exchanges = before ++ ⟨.push ref, r⟩ :: after →
      ∃ kind name v s queries,
        RunBegins h config steps (.start state) (.publish kind name) s ∧
        Ref.check kind config.tagPrefix name = .ok v ∧
        Cleared config kind name queries ref ∧
        before = s.exchanges ++ queries ∧
        (publish h config kind name s).2.exchanges = before ++ [⟨.push ref, r⟩]) ∧
    (∀ (kind : Ref.Kind) (name ref : String) (v : Version) (queries : List Exchange)
        (s : Session σ) (after : σ),
      Ref.check kind config.tagPrefix name = .ok v → s.released = false →
      Cleared config kind name queries ref → Answers h s.state queries after →
      (publish h config kind name s).2.exchanges =
        s.exchanges ++ queries ++ [⟨.push ref, (h.answer (.push ref) after).result⟩]) ∧
    (∀ (kind : Ref.Kind) (name : String) (e : Raised) (s : Session σ),
      Ref.check kind config.tagPrefix name = .error e →
      publish h config kind name s = (.error e, s)) := by
  refine ⟨?_, ?_, ?_⟩
  · intro steps state before after ref r trace
    have found : (run h config steps (.start state)).2.exchanges[before.length]?
        = some ⟨.push ref, r⟩ := by
      simp [trace]
    have licensed := (run_guarded h config steps (.start state)).pushes before.length ref r
      (Nat.zero_le _) found
    rwa [trace, List.take_left] at licensed
  · intro kind name ref v queries s after good there cleared answers
    obtain ⟨found, absent, rfl, rfl, trace⟩ := says_of_cleared cleared answers
    rw [publish_pushes good there found absent, ← trace]
    rfl
  · intro kind name e s bad
    exact publish_refused bad

/-- A run that publishes a branch and a tag of one name in a block: the push of the tag is licensed
by the two calls before it. An open publisher pushes the tag, and `v1` names no branch. -/
theorem run_push_cleared_shared_name :
    (∃ kind name v s queries,
      RunBegins Memory.handle ⟨false, 0, ⟨"."⟩, "master", "origin", "release-"⟩
        [.block [.publish .branch "release-1.0.0-rc", .publish .tag "release-1.0.0-rc"]]
        (.start ⟨["release-1.0.0-rc"], ["release-1.0.0-rc"], [], false, none, fun _ => []⟩)
        (.publish kind name) s ∧
      Ref.check kind "release-" name = .ok v ∧
      Cleared ⟨false, 0, ⟨"."⟩, "master", "origin", "release-"⟩ kind name queries
        "refs/tags/release-1.0.0-rc" ∧
      (run Memory.handle ⟨false, 0, ⟨"."⟩, "master", "origin", "release-"⟩
        [.block [.publish .branch "release-1.0.0-rc", .publish .tag "release-1.0.0-rc"]]
        (.start ⟨["release-1.0.0-rc"], ["release-1.0.0-rc"], [], false, none, fun _ => []⟩)
        ).2.exchanges =
        s.exchanges ++ queries ++
          [⟨.push "refs/tags/release-1.0.0-rc", .ok ()⟩, ⟨.close, .ok ()⟩]) ∧
    (publish Memory.handle ⟨false, 0, ⟨"."⟩, "master", "origin", "release-"⟩ .tag
        "release-1.0.0-rc" (.start ⟨[], ["release-1.0.0-rc"], [], false, none, fun _ => []⟩)
        ).2.exchanges =
      [⟨.tagsOnBranch "master", .ok ["release-1.0.0-rc"]⟩,
        ⟨.hasRemoteTag "release-1.0.0-rc", .ok false⟩,
        ⟨.push "refs/tags/release-1.0.0-rc", .ok ()⟩] ∧
    (publish Memory.handle ⟨false, 0, ⟨"."⟩, "master", "origin", "release-"⟩ .branch "v1"
        (.start ⟨["v1"], [], [], false, none, fun _ => []⟩)).2.exchanges = [] := by
  refine ⟨?_, ?_, ?_⟩
  · have trace : (run Memory.handle ⟨false, 0, ⟨"."⟩, "master", "origin", "release-"⟩
        [.block [.publish .branch "release-1.0.0-rc", .publish .tag "release-1.0.0-rc"]]
        (.start ⟨["release-1.0.0-rc"], ["release-1.0.0-rc"], [], false, none, fun _ => []⟩)
        ).2.exchanges =
        [⟨.checkout "master", .ok ()⟩, ⟨.setDryRun false, .ok ()⟩, ⟨.setMaxRetries 0, .ok ()⟩,
          ⟨.hasLocalBranch "release-1.0.0-rc", .ok true⟩,
          ⟨.hasRemoteBranch "release-1.0.0-rc", .ok false⟩,
          ⟨.push "refs/heads/release-1.0.0-rc", .ok ()⟩,
          ⟨.tagsOnBranch "master", .ok ["release-1.0.0-rc"]⟩,
          ⟨.hasRemoteTag "release-1.0.0-rc", .ok false⟩]
        ++ ⟨.push "refs/tags/release-1.0.0-rc", .ok ()⟩ :: [⟨.close, .ok ()⟩] := rfl
    obtain ⟨kind, name, v, s, queries, begins, good, cleared, before, -⟩ :=
      (run_push_cleared Memory.handle _).1 _ _ _ _ _ _ trace
    refine ⟨kind, name, v, s, queries, begins, good, cleared, ?_⟩
    rw [trace, before]
  · exact (run_push_cleared Memory.handle _).2.1 .tag "release-1.0.0-rc"
      "refs/tags/release-1.0.0-rc" _
      [⟨.tagsOnBranch "master", .ok ["release-1.0.0-rc"]⟩,
        ⟨.hasRemoteTag "release-1.0.0-rc", .ok false⟩] _ _ rfl rfl
      (.tag "release-1.0.0-rc" ["release-1.0.0-rc"] List.mem_cons_self) ⟨rfl, rfl, rfl⟩
  · rw [(run_push_cleared Memory.handle _).2.2 .branch "v1" _ _ rfl]
    rfl

end ReleaseRefs.Proofs.Publish
