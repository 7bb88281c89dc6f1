import ReleaseRefs.Proofs.Publish.Memory

/-!
# `ReleaseRefs.Proofs.Publish.FailedCalls`: what a failed call leads to

Every call on a handle may fail, and with anything. A failed call has to end the operation that made
it, and the failure has to say which part of the operation went wrong and why.

- `InTurn` says of the calls of an operation that they follow its plan, and stop at the first that
  fails.
- `Preparation` says what the calls come to that prepare an opened repository
  (`Prepared.preparation`). `create_acquires_or_releases` adds the opening before them and the
  release behind them: a repository that cannot be prepared is given back.
- `Publication` says what the calls come to that publish a ref (`Published.publication`).
  `failed_publications_mapped` adds what a failed publication leaves behind: the publisher stays as
  it is, and nothing is pushed.
-/

set_option autoImplicit false

namespace ReleaseRefs.Proofs.Publish

open ReleaseRefs.Publish ReleaseRefs.Publish.Publisher

/-! ### Calls in turn -/

/-- A call that did not fail. -/
def Succeeded (x : Exchange) : Prop := ∃ a, x.result = .ok a

/-- The calls that were made follow a plan, and only the last one may have failed. -/
structure InTurn (plan : List Call) (made : List Exchange) : Prop where
  order : made.map Exchange.call <+: plan
  succeeded : ∀ x ∈ made.dropLast, Succeeded x

/-- The first call of a plan is in turn, however it ends. -/
theorem InTurn.one (c : Call) (plan : List Call) (r : Except Raised c.Answer) :
    InTurn (c :: plan) [⟨c, r⟩] :=
  ⟨⟨plan, rfl⟩, fun _ early => absurd early List.not_mem_nil⟩

/-- After a call that was answered the next ones are in turn. -/
theorem InTurn.cons {plan : List Call} {made : List Exchange} (rest : InTurn plan made) {c : Call}
    {r : Except Raised c.Answer} {a : c.Answer} (answer : r = .ok a) :
    InTurn (c :: plan) (⟨c, r⟩ :: made) where
  order := (List.prefix_cons_inj c).2 rest.order
  succeeded x early := by
    cases made with
    | nil => cases early
    | cons y made =>
      rw [List.dropLast_cons_cons, List.mem_cons] at early
      rcases early with rfl | later
      · exact ⟨a, answer⟩
      · exact rest.succeeded x later

/-! ### Opening -/

/-- The calls that prepare an opened repository. -/
def preparationPlan (config : Config) : List Call :=
  [.checkout config.defaultBranch, .setDryRun config.dryRun, .setMaxRetries config.maxRetries]

/-- What becomes of a failed call of the preparation. Only a failed checkout gets a name. -/
def PreparationFailure : Call → Raised → Raised → Prop
  | .checkout branch => ComesUp IsCheckout fun m => .git ⟨.checkout (some branch) false, m⟩
  | _ => Eq

/-- What calls of a preparation come to. -/
inductive Preparation (config : Config) (made : List Exchange) : Except Raised Unit → Prop where
  | done (all : made.map Exchange.call = preparationPlan config)
      (succeeded : ∀ x ∈ made, Succeeded x) : Preparation config made (.ok ())
  | failed {c : Call} {e e' : Raised} (last : made.getLast? = some ⟨c, .error e⟩)
      (comesUp : PreparationFailure c e e') : Preparation config made (.error e')

/-- What follows a preparation. A repository that was prepared is kept, and any other one is given
back. A failure to give it back takes the place of the first one. -/
inductive Settled {σ : Type} (made : List Exchange) :
    Except Raised Unit → Except Raised Unit × Session σ → Prop where
  | kept {t : Session σ} (trace : t.exchanges = made) (held : t.released = false) :
      Settled made (.ok ()) (.ok (), t)
  | givenBack {e : Raised} {t : Session σ} (trace : t.exchanges = made ++ [⟨.close, .ok ()⟩])
      (gone : t.released = true) : Settled made (.error e) (.error e, t)
  | stuck {e f : Raised} {t : Session σ} (trace : t.exchanges = made ++ [⟨.close, .error f⟩])
      (gone : t.released = true) : Settled made (.error e) (.error f, t)

section Opening

variable {σ : Type} {h : Handle σ} {config : Config} {s t : Session σ}

/-- The calls of a preparation that gets as far as the last one. -/
theorem retriesSet_exchanges
    (checkout : (h.answer (.checkout config.defaultBranch) s.state).result = .ok ())
    (dryRun : (h.answer (.setDryRun config.dryRun) (checkedOut h config s).state).result = .ok ()) :
    (retriesSet h config s).exchanges = s.exchanges ++
      [⟨.checkout config.defaultBranch, .ok ()⟩, ⟨.setDryRun config.dryRun, .ok ()⟩,
        ⟨.setMaxRetries config.maxRetries,
          (h.answer (.setMaxRetries config.maxRetries) (dryRunSet h config s).state).result⟩] := by
  rw [retriesSet, asked_exchanges, dryRunSet_exchanges, dryRun, checkedOut, asked_exchanges,
    told_state, checkout, List.append_assoc, List.append_assoc]
  rfl

/-- A preparation makes its calls in turn, and comes to what they come to. -/
theorem Prepared.preparation {r : Except Raised Unit} (prepared : Prepared h config s (r, t)) :
    ∃ made, t.exchanges = s.exchanges ++ made ∧ t.released = s.released ∧
      InTurn (preparationPlan config) made ∧ Preparation config made r := by
  cases prepared with
  | @checkoutFailed e failed =>
    refine ⟨[⟨.checkout config.defaultBranch, .error e⟩], ?_, rfl, .one .., .failed rfl ?_⟩
    · rw [checkedOut, asked_exchanges, told_state, failed]
      rfl
    · exact checkoutFailure_comesUp config e
  | @dryRunFailed e checkout failed =>
    refine ⟨[⟨.checkout config.defaultBranch, .ok ()⟩, ⟨.setDryRun config.dryRun, .error e⟩],
      ?_, dryRunSet_released .., .cons (.one ..) rfl, .failed rfl rfl⟩
    rw [dryRunSet_exchanges, failed, checkedOut, asked_exchanges, told_state, checkout,
      List.append_assoc]
    rfl
  | retriesFailed checkout dryRun failed =>
    have trace := retriesSet_exchanges checkout dryRun
    rw [failed] at trace
    exact ⟨_, trace, retriesSet_released .., .cons (.cons (.one ..) rfl) rfl, .failed rfl rfl⟩
  | ready checkout dryRun retries =>
    have trace := retriesSet_exchanges checkout dryRun
    rw [retries] at trace
    refine ⟨_, trace, retriesSet_released .., .cons (.cons (.one ..) rfl) rfl, .done rfl ?_⟩
    simp [Succeeded]

variable (h config)

/-- What opening and preparing a repository comes to.

- If the repository cannot be opened, no call is made. The failure comes up as one of the opening.
- Otherwise the calls of the preparation are made in turn. If all succeed, then the repository is
  kept. If one fails, then the repository is given back, once and as the last call, and its failure
  comes up, as one of the checkout if it was that call.
- Without a repository that is open and prepared, nothing is done with a publisher. -/
theorem create_acquires_or_releases (state : σ) :
    (match (h.opens config.repoPath config.remote state).1 with
      | .error e =>
        (create h config (.start state)).2.exchanges = [] ∧
        ∃ e', (create h config (.start state)).1 = .error e' ∧
          ComesUp IsOpening (fun m => .git ⟨.opening (some (.located config.repoPath)), m⟩) e e'
      | .ok _ => ∃ made r, InTurn (preparationPlan config) made ∧ Preparation config made r ∧
        Settled made r (create h config (.start state))) ∧
    ∀ e, (create h config (.start state)).1 = .error e → ∀ steps,
      run h config steps (.start state) = (.error e, (create h config (.start state)).2) := by
  rcases hc : create h config (.start state) with ⟨r, t⟩
  refine ⟨?_, fun e failed steps => ?_⟩
  · cases hc ▸ create_created h config (.start state) with
    | @unopened e failed =>
      have opening : (h.opens config.repoPath config.remote state).1 = .error e := failed
      rw [opening]
      exact ⟨rfl, _, rfl, openFailure_comesUp config e⟩
    | ready opens prepared =>
      have opening : (h.opens config.repoPath config.remote state).1 = .ok () := opens
      rw [opening]
      obtain ⟨made, trace, held, inTurn, preparation⟩ := prepared.preparation
      exact ⟨made, _, inTurn, preparation, .kept trace held⟩
    | @unprepared e t opens prepared =>
      have opening : (h.opens config.repoPath config.remote state).1 = .ok () := opens
      rw [opening]
      obtain ⟨made, trace, held, inTurn, preparation⟩ := prepared.preparation
      refine ⟨made, _, inTurn, preparation, ?_⟩
      have held : t.released = false := held
      have trace : t.exchanges = made := trace
      have closed : (asked h .close (released t)).exchanges =
          made ++ [⟨.close, (h.answer .close t.state).result⟩] := by
        rw [asked_exchanges, ← trace]
        rfl
      rw [close_run, held, if_neg Bool.false_ne_true]
      cases back : (h.answer .close t.state).result with
      | ok a => exact .givenBack (back ▸ closed) rfl
      | error f => exact .stuck (back ▸ closed) rfl
  · obtain rfl : r = .error e := failed
    exact bind_error _ hc

end Opening

/-- Without a git program the first checkout fails. The repository is given back, and the failure
comes up as one of the checkout. -/
theorem create_acquires_or_releases_missing_program :
    let config : Config := ⟨true, 0, ⟨"."⟩, "master", "origin", "v"⟩
    let missing : GitFailure := ⟨.missingProgram, "Git CLI not found"⟩
    let memory : Memory := ⟨[], [], [], false, none,
      fun k => if k = .checkout then [some (.plain (.git missing))] else []⟩
    run Memory.handle config [.close] (.start memory) =
      (.error (.fromCause (.git ⟨.checkout (some "master") false,
          "Checking out master branch: Git CLI not found"⟩) (.git missing)),
        (create Memory.handle config (.start memory)).2) ∧
    (create Memory.handle config (.start memory)).2.calls = [.checkout "master", .close] := by
  intro config missing memory
  exact ⟨(create_acquires_or_releases Memory.handle config memory).2 _ rfl [.close], rfl⟩

/-! ### Publishing -/

/-- The calls that publish a ref. -/
def publicationPlan (config : Config) (kind : Ref.Kind) (name : String) : List Call :=
  [localCall config name kind, remoteCall name kind, .push (kind.fullRef name)]

/-- The part of a publication that a call belongs to. -/
def callFault : Call → PublishFault
  | .push _ => .push
  | .hasRemoteBranch _ => .remoteLookup
  | .hasRemoteTag _ => .remoteLookup
  | _ => .localLookup

theorem callFault_localCall (config : Config) (kind : Ref.Kind) (name : String) :
    callFault (localCall config name kind) = .localLookup := by
  cases kind <;> rfl

theorem callFault_remoteCall (kind : Ref.Kind) (name : String) :
    callFault (remoteCall name kind) = .remoteLookup := by
  cases kind <;> rfl

/-- What calls of a publication come to. -/
inductive Publication (config : Config) (kind : Ref.Kind) (name : String) (made : List Exchange) :
    Except Raised Outcome → Prop where
  | failed {c : Call} {e e' : Raised} (last : made.getLast? = some ⟨c, .error e⟩)
      (comesUp : ComesUp NoFault (fun m => .publish ⟨callFault c, m, some name⟩) e e') :
      Publication config kind name made (.error e')
  | missing {a : (localCall config name kind).Answer} {m : String}
      (only : made = [⟨localCall config name kind, .ok a⟩])
      (absent : isFound config name kind a = false) :
      Publication config kind name made (.error (.plain (.publish ⟨.notFound, m, some name⟩)))
  | present (calls : made.map Exchange.call = [localCall config name kind, remoteCall name kind])
      (succeeded : ∀ x ∈ made, Succeeded x) :
      Publication config kind name made (.ok ⟨name, kind, false, config.dryRun⟩)
  | pushed (calls : made.map Exchange.call = publicationPlan config kind name)
      (succeeded : ∀ x ∈ made, Succeeded x) :
      Publication config kind name made (.ok ⟨name, kind, true, config.dryRun⟩)

section Publishing

variable {σ : Type} {h : Handle σ} {config : Config} {kind : Ref.Kind} {name : String}
  {s t : Session σ} {v : Version}

/-- The publication of a ref with an accepted name makes its calls in turn, and comes to what they
come to. -/
theorem Published.publication {r : Except Raised Outcome}
    (published : Published h config kind name s (r, t))
    (good : Ref.check kind config.tagPrefix name = .ok v) (there : s.released = false) :
    ∃ made, t.exchanges = s.exchanges ++ made ∧ InTurn (publicationPlan config kind name) made ∧
      Publication config kind name made r := by
  cases published with
  | refused bad => cases good.symm.trans bad
  | closed _ gone => cases there.symm.trans gone
  | @localFailed _ e _ _ failed =>
    refine ⟨[⟨localCall config name kind, .error e⟩], ?_, .one .., .failed rfl ?_⟩
    · rw [afterLocal, asked_exchanges, failed]
    · rw [callFault_localCall]
      exact localFailure_comesUp config kind name e
  | missing _ _ found =>
    obtain ⟨a, looked, absent⟩ := found
    refine ⟨[⟨localCall config name kind, .ok a⟩], ?_, .one .., .missing rfl absent⟩
    rw [afterLocal, asked_exchanges, looked]
  | @remoteFailed _ e _ _ found failed =>
    obtain ⟨a, looked, -⟩ := found
    have trace := afterRemote_trace looked
    rw [failed] at trace
    refine ⟨_, trace, .cons (.one ..) rfl, .failed rfl ?_⟩
    rw [callFault_remoteCall]
    exact remoteFailure_comesUp config kind name e
  | present _ _ found present =>
    obtain ⟨a, looked, -⟩ := found
    obtain ⟨b, queried, -⟩ := present
    have trace := afterRemote_trace looked
    rw [queried] at trace
    exact ⟨_, trace, .cons (.one ..) rfl, .present rfl (by simp [Succeeded])⟩
  | @pushFailed _ e _ _ found present failed =>
    obtain ⟨a, looked, -⟩ := found
    obtain ⟨b, queried, -⟩ := present
    have trace := afterPush_trace looked queried
    rw [failed] at trace
    exact ⟨_, trace, .cons (.cons (.one ..) rfl) rfl, .failed rfl (pushFailure_comesUp kind name e)⟩
  | pushed _ _ found present succeeded =>
    obtain ⟨a, looked, -⟩ := found
    obtain ⟨b, queried, -⟩ := present
    have trace := afterPush_trace looked queried
    rw [succeeded] at trace
    exact ⟨_, trace, .cons (.cons (.one ..) rfl) rfl, .pushed rfl (by simp [Succeeded])⟩

/-- Over the repository in memory a publication that fails leaves all refs as they are. -/
theorem publish_keeps_of_error {s : Session Memory} {e : Raised}
    (failed : (publish Memory.handle config kind name s).1 = .error e) :
    Keeps s.state (publish Memory.handle config kind name s).2.state := by
  have effect := publish_effect config kind name s
  rw [failed] at effect
  cases effect with
  | kept keeps => exact keeps

end Publishing

/-- What the publication of a ref with an accepted name comes to.

Over every handle that was not given back:

- the look-ups and the push are made in turn, and what they come to is the outcome; the failure of
  one comes up as one of the part of the publication that it belongs to;
- if the local repository says that it does not have the ref, then this is the only call, and the
  ref is reported missing;
- the handle is not given back, and the options are as before.

Over the repository in memory a publication that fails leaves all refs as they are. -/
theorem failed_publications_mapped (config : Config) (kind : Ref.Kind) (name : String) {v : Version}
    (good : Ref.check kind config.tagPrefix name = .ok v) :
    (∀ (σ : Type) (h : Handle σ) (s : Session σ), s.released = false →
      (∃ made, (publish h config kind name s).2.exchanges = s.exchanges ++ made ∧
        InTurn (publicationPlan config kind name) made ∧
        Publication config kind name made (publish h config kind name s).1) ∧
      (∀ a, (h.answer (localCall config name kind) s.state).result = .ok a →
        isFound config name kind a = false →
        (publish h config kind name s).2.exchanges =
          s.exchanges ++ [⟨localCall config name kind, .ok a⟩] ∧
        ∃ m, (publish h config kind name s).1 =
          .error (.plain (.publish ⟨.notFound, m, some name⟩))) ∧
      (publish h config kind name s).2.released = false ∧
      perform h config .inspect (publish h config kind name s).2 =
        (.ok (.options config), (publish h config kind name s).2)) ∧
    ∀ (s : Session Memory) (e : Raised), (publish Memory.handle config kind name s).1 = .error e →
      Keeps s.state (publish Memory.handle config kind name s).2.state := by
  refine ⟨fun σ h s there => ⟨?_, fun a looked absent => ?_, ?_, rfl⟩,
    fun s e failed => publish_keeps_of_error failed⟩
  · have published := publish_published h config kind name s
    rcases hp : publish h config kind name s with ⟨r, t⟩
    rw [hp] at published
    exact published.publication good there
  · rw [publish_missing good there ⟨a, looked, absent⟩, afterLocal, asked_exchanges, looked]
    exact ⟨rfl, _, rfl⟩
  · rw [publish_released, there]

/-- A repository with a tag, of which the remote cannot be asked for tags. -/
def unreachable : Session Memory :=
  .start ⟨[], ["v1.0.0"], [], false, none, fun k =>
    if k = .hasRemoteTag then
      [some (.plain (.git ⟨.other (some "ls_remote") true, "Connection reset"⟩))]
    else []⟩

/-- When the remote cannot be asked for a tag, then the tag is not pushed, and the failure comes up
as one of the remote look-up. -/
theorem failed_publications_mapped_unreachable :
    ∃ t, publish Memory.handle ⟨false, 0, ⟨"."⟩, "master", "origin", "v"⟩ .tag "v1.0.0" unreachable
        = (.error (.fromCause (.publish ⟨.remoteLookup,
            "Checking if tag v1.0.0 exists in remote origin: Connection reset", some "v1.0.0"⟩)
          (.git ⟨.other (some "ls_remote") true, "Connection reset"⟩)), t) ∧
      t.calls = [.tagsOnBranch "master", .hasRemoteTag "v1.0.0"] ∧ t.released = false ∧
      Keeps unreachable.state t.state := by
  obtain ⟨mapped, kept⟩ := failed_publications_mapped ⟨false, 0, ⟨"."⟩, "master", "origin", "v"⟩
    .tag "v1.0.0" (v := ⟨1, 0, 0, none, none⟩) rfl
  exact ⟨_, rfl, rfl, (mapped Memory Memory.handle unreachable rfl).2.2.1, kept unreachable _ rfl⟩

end ReleaseRefs.Proofs.Publish
