import ReleaseRefs.Proofs.Publish.Convergence

/-!
# `ReleaseRefs.Proofs.Publish.AuditTrail`: what the events of a release tell

Publishing a ref leaves three records behind: the events that the publisher tells, the result, and
the calls with what came of them. Whoever reads the events later relies on them to agree with the
other two.

- `Among` says that the publisher's own events stand among those that the handle told while it
  answered. `Among.filter_eq`: they can be picked out by who speaks, unless the handle speaks as the
  publisher.
- `EventTrail` has the four trails of own events that publishing a ref can leave
  (`publish_eventTrail`), and `EventTrail.audited` reads them backwards: each trail tells one kind
  of end.
- `Faithful` says that the remote in memory grew by the refs that the events tell to have been
  pushed for real. It holds of every release (`release_faithful`).
- `events_audit_releases` puts both together, for every row of refs to publish.
-/

set_option autoImplicit false

namespace ReleaseRefs.Proofs.Publish

open ReleaseRefs.Publish ReleaseRefs.Publish.Publisher

variable {σ : Type}

/-! ### Own events -/

/-- The handle tells the event with one of its answers. -/
def SpokenBy (h : Handle σ) (e : Log.Event) : Prop := ∃ c m, e ∈ (h.answer c m).events

/-- Events are some of the publisher's own, in order, with events of the handle in between. -/
inductive Among (h : Handle σ) : (own since : List Log.Event) → Prop where
  | nothing : Among h [] []
  | own (e : Log.Event) {own since : List Log.Event} (rest : Among h own since) :
      Among h (e :: own) (e :: since)
  | heard {e : Log.Event} (spoken : SpokenBy h e) {own since : List Log.Event}
      (rest : Among h own since) : Among h own (e :: since)

namespace Among

variable {h : Handle σ} {own own' since since' : List Log.Event}

theorem append (first : Among h own since) (second : Among h own' since') :
    Among h (own ++ own') (since ++ since') := by
  induction first with
  | nothing => exact second
  | own e _ ih => exact ih.own e
  | heard spoken _ ih => exact ih.heard spoken

/-- One event of the publisher. -/
theorem one (e : Log.Event) : Among h [e] [e] := nothing.own e

/-- What the handle tells with an answer. -/
theorem reply (c : Call) (m : σ) : Among h [] (h.answer c m).events := by
  have heards (es : List Log.Event) (spoken : ∀ e ∈ es, SpokenBy h e) : Among h [] es := by
    induction es with
    | nil => exact nothing
    | cons e es ih =>
      exact (ih fun e member => spoken e (List.mem_cons_of_mem _ member)).heard
        (spoken e List.mem_cons_self)
  exact heards _ fun e member => ⟨c, m, member⟩

/-- If the handle never speaks as the publisher, the publisher's own events are picked out by who
speaks. -/
theorem filter_eq (among : Among h own since) (foreign : ∀ e, SpokenBy h e → e.source ≠ source)
    (spoken : ∀ e ∈ own, e.source = source) :
    since.filter (fun e => decide (e.source = source)) = own := by
  induction among with
  | nothing => rfl
  | own e _ ih =>
    rw [List.filter_cons_of_pos (by simpa using spoken e List.mem_cons_self),
      ih fun e member => spoken e (List.mem_cons_of_mem _ member)]
  | heard heard _ ih =>
    rw [List.filter_cons_of_neg (by simpa using foreign _ heard), ih spoken]

/-- A handle that tells nothing leaves the publisher's own events only. -/
theorem eq_of_silent (among : Among h own since) (silent : ∀ e, ¬ SpokenBy h e) : since = own := by
  induction among with
  | nothing => rfl
  | own e _ ih => rw [ih]
  | heard heard => exact absurd heard (silent _)

end Among

/-- What one session has on record behind another: calls, and the publisher's own events among those
of the handle. -/
structure Recorded (h : Handle σ) (s t : Session σ) (made : List Exchange)
    (own : List Log.Event) : Prop where
  exchanges : t.exchanges = s.exchanges ++ made
  events : ∃ since, t.events = s.events ++ since ∧ Among h own since

namespace Recorded

variable {h : Handle σ} {s t : Session σ} {made : List Exchange} {own : List Log.Event}

/-- Nothing goes on record without a call or an event. -/
theorem of_eq (exchanges : t.exchanges = s.exchanges) (events : t.events = s.events) :
    Recorded h s t [] [] :=
  ⟨by rw [exchanges, List.append_nil], [], by rw [events, List.append_nil], .nothing⟩

/-- A call goes on record with what came of it. -/
theorem ask (recorded : Recorded h s t made own) (c : Call) :
    Recorded h s (asked h c t) (made ++ [⟨c, (h.answer c t.state).result⟩]) own := by
  obtain ⟨since, events, among⟩ := recorded.events
  refine ⟨?_, since ++ (h.answer c t.state).events, ?_, ?_⟩
  · rw [asked_exchanges, recorded.exchanges, List.append_assoc]
  · show t.events ++ _ = _
    rw [events, List.append_assoc]
  · have heard := among.append (.reply c t.state)
    rwa [List.append_nil] at heard

/-- An event of the publisher goes on record. -/
theorem tell (recorded : Recorded h s t made own) (e : Log.Event) :
    Recorded h s (told e t) made (own ++ [e]) := by
  obtain ⟨since, events, among⟩ := recorded.events
  refine ⟨recorded.exchanges, since ++ [e], ?_, among.append (.one e)⟩
  show t.events ++ _ = _
  rw [events, List.append_assoc]

end Recorded

/-! ### Trails -/

/-- No push is among the calls. -/
def NoPush (made : List Exchange) : Prop := ∀ x ∈ made, x.call.method ≠ .push

theorem NoPush.ask {made : List Exchange} (quiet : NoPush made) {c : Call}
    (noPush : c.method ≠ .push) (r : Except Raised c.Answer) : NoPush (made ++ [⟨c, r⟩]) := by
  intro x member
  rcases List.mem_append.1 member with before | last
  · exact quiet x before
  · rw [List.mem_singleton.1 last]
    exact noPush

section Trails

variable (config : Config) (kind : Ref.Kind) (name : String)

/-- The event about a ref that the remote has. -/
def presentEvent : Log.Event := refEvent config kind name "ref_already_on_remote" []

/-- The event about a push that is going to be made. -/
def pushingEvent : Log.Event :=
  refEvent config kind name "pushing_ref" [("dry_run", .bool config.dryRun)]

/-- The event about a push that was made. -/
def pushedEvent : Log.Event :=
  refEvent config kind name "ref_pushed" [("dry_run", .bool config.dryRun)]

/-- The trails that publishing a ref can leave: the result, the calls with what came of them, and
the publisher's own events. -/
inductive EventTrail :
    Except Raised Outcome → (made : List Exchange) → (own : List Log.Event) → Prop where
  | ended {e : Raised} {made : List Exchange} (quiet : NoPush made) : EventTrail (.error e) made []
  | present {made : List Exchange} (quiet : NoPush made) :
      EventTrail (.ok ⟨name, kind, false, config.dryRun⟩) made [presentEvent config kind name]
  | failed {e f : Raised} {made : List Exchange} (quiet : NoPush made) :
      EventTrail (.error e) (made ++ [⟨.push (kind.fullRef name), .error f⟩])
        [pushingEvent config kind name]
  | pushed {made : List Exchange} (quiet : NoPush made) :
      EventTrail (.ok ⟨name, kind, true, config.dryRun⟩)
        (made ++ [⟨.push (kind.fullRef name), .ok ()⟩])
        [pushingEvent config kind name, pushedEvent config kind name]

/-- Publishing a ref leaves one of the trails. -/
theorem publish_eventTrail (h : Handle σ) (s : Session σ) :
    ∃ made own, Recorded h s (publish h config kind name s).2 made own ∧
      EventTrail config kind name (publish h config kind name s).1 made own := by
  have nothing : NoPush [] := fun _ member => absurd member List.not_mem_nil
  -- The records grow call by call. How publishing ends says after which call they stop.
  have looked := (Recorded.of_eq (h := h) (s := s) rfl rfl).ask (localCall config name kind)
  have quiet := nothing.ask (localCall_method config name kind).1
    (h.answer (localCall config name kind) s.state).result
  have queried := looked.ask (remoteCall name kind)
  have quiet' := quiet.ask (remoteCall_method name kind).1
    (h.answer (remoteCall name kind) (afterLocal h config kind name s).state).result
  have pushed := (queried.tell (pushingEvent config kind name)).ask (.push (kind.fullRef name))
  rcases hp : publish h config kind name s with ⟨r, t⟩
  cases hp ▸ publish_published h config kind name s with
  | refused => exact ⟨_, _, .of_eq rfl rfl, .ended nothing⟩
  | closed => exact ⟨_, _, .of_eq rfl rfl, .ended nothing⟩
  | localFailed => exact ⟨_, _, looked, .ended quiet⟩
  | missing => exact ⟨_, _, looked, .ended quiet⟩
  | remoteFailed => exact ⟨_, _, queried, .ended quiet'⟩
  | present => exact ⟨_, _, queried.tell _, .present quiet'⟩
  | pushFailed _ _ _ _ failed =>
    refine ⟨_, _, pushed, ?_⟩
    rw [told_state]
    exact failed ▸ .failed quiet'
  | pushed _ _ _ _ served =>
    refine ⟨_, _, pushed.tell _, ?_⟩
    rw [told_state]
    exact served ▸ .pushed quiet'

/-- The event is one of the publisher about the ref and the remote. -/
def About (e : Log.Event) : Prop :=
  e.source = source ∧
    [("ref", .text name), ("kind", .text kind.word), ("remote", .text config.remote)] <+: e.fields

/-- What the publisher's own events about a ref tell. -/
structure Audited (r : Except Raised Outcome) (made : List Exchange) (own : List Log.Event) : Prop
    where
  /-- None: there was a failure, and before the push. -/
  silent : own = [] ↔ (∃ e, r = .error e) ∧ NoPush made
  /-- The remote had the ref. -/
  present : own = [presentEvent config kind name] ↔ ∃ o, r = .ok o ∧ o.pushed = false
  /-- The push was made and failed, and so did publishing the ref. -/
  failed : own = [pushingEvent config kind name] ↔
    (∃ e, r = .error e) ∧ ∃ f, ⟨.push (kind.fullRef name), .error f⟩ ∈ made
  /-- The ref was pushed. -/
  pushed : own = [pushingEvent config kind name, pushedEvent config kind name] ↔
    ∃ o, r = .ok o ∧ o.pushed = true
  /-- There are no other trails. -/
  known : own = [] ∨ own = [presentEvent config kind name] ∨
    own = [pushingEvent config kind name] ∨
    own = [pushingEvent config kind name, pushedEvent config kind name]
  about : ∀ e ∈ own, About config kind name e

variable {config kind name}

/-- A trail tells what it was left by. -/
theorem EventTrail.audited {r : Except Raised Outcome} {made : List Exchange} {own : List Log.Event}
    (trail : EventTrail config kind name r made own) : Audited config kind name r made own := by
  have names : presentEvent config kind name ≠ pushingEvent config kind name := by
    intro same
    have name := congrArg Log.Event.name same
    simp [presentEvent, pushingEvent, refEvent, Log.Event.make] at name
  have noPush {made : List Exchange} (quiet : NoPush made) {f : Raised} :
      ⟨.push (kind.fullRef name), .error f⟩ ∉ made := fun member => quiet _ member rfl
  have somePush {made : List Exchange} {r : Except Raised Unit} :
      ¬ NoPush (made ++ [⟨.push (kind.fullRef name), r⟩]) := fun quiet =>
    quiet _ (List.mem_append_right made List.mem_cons_self) rfl
  have about (event : String) (more : List (String × Value)) :
      About config kind name (refEvent config kind name event more) :=
    ⟨rfl, List.prefix_append ..⟩
  have aboutPresent : About config kind name (presentEvent config kind name) := about _ _
  have aboutPushing : About config kind name (pushingEvent config kind name) := about _ _
  have aboutPushed : About config kind name (pushedEvent config kind name) := about _ _
  -- No two trails have the same events, so the trail at hand decides all parts.
  cases trail with
  | ended quiet => constructor <;> simp [quiet, noPush quiet]
  | present quiet => constructor <;> simp [names, aboutPresent]
  | failed quiet => constructor <;> simp [names.symm, somePush, aboutPushing]
  | pushed quiet => constructor <;> simp [aboutPushing, aboutPushed]

end Trails

/-! ### Opening -/

/-- Calls were made from one session to another, and the publisher told about the opening only. -/
def Opening (config : Config) (h : Handle σ) (s t : Session σ) : Prop :=
  ∃ made own, Recorded h s t made own ∧ ∀ e ∈ own, e = checkoutEvent config ∨ e = dryRunEvent

namespace Opening

variable {config : Config} {h : Handle σ} {s t : Session σ}

theorem of_eq (exchanges : t.exchanges = s.exchanges) (events : t.events = s.events) :
    Opening config h s t :=
  ⟨[], [], .of_eq exchanges events, by simp⟩

theorem ask (opening : Opening config h s t) (c : Call) : Opening config h s (asked h c t) := by
  obtain ⟨made, own, recorded, known⟩ := opening
  exact ⟨_, own, recorded.ask c, known⟩

theorem tell (opening : Opening config h s t) {e : Log.Event}
    (about : e = checkoutEvent config ∨ e = dryRunEvent) : Opening config h s (told e t) := by
  obtain ⟨made, own, recorded, known⟩ := opening
  refine ⟨made, _, recorded.tell e, fun f member => ?_⟩
  rcases List.mem_append.1 member with before | last
  · exact known f before
  · rwa [List.mem_singleton.1 last]

/-- To give the repository back tells nothing. -/
theorem close (opening : Opening config h s t) :
    Opening config h s (Publisher.close h t).2 := by
  rw [close_run]
  split
  · exact opening
  · obtain ⟨made, own, recorded, known⟩ := opening
    have gone : Opening config h s (released t) :=
      ⟨made, own, ⟨recorded.exchanges, recorded.events⟩, known⟩
    exact gone.ask .close

end Opening

/-- Opening and preparing a repository tells nothing else, however it ends. -/
theorem create_opening (config : Config) (h : Handle σ) (s : Session σ) :
    Opening config h s (create h config s).2 := by
  have opens : Opening config h s (opened h config s) := .of_eq rfl rfl
  have checkout : Opening config h s (checkedOut h config (opened h config s)) :=
    (opens.tell (.inl rfl)).ask _
  have announce : Opening config h s (announced h config (opened h config s)) := by
    unfold announced
    split
    · exact checkout.tell (.inr rfl)
    · exact checkout
  have dryRun : Opening config h s (dryRunSet h config (opened h config s)) := announce.ask _
  have retries : Opening config h s (retriesSet h config (opened h config s)) := dryRun.ask _
  have prepared {r : Except Raised Unit} {t : Session σ}
      (prepared : Prepared h config (opened h config s) (r, t)) : Opening config h s t := by
    cases prepared with
    | checkoutFailed => exact checkout
    | dryRunFailed => exact dryRun
    | retriesFailed => exact retries
    | ready => exact retries
  rcases hc : create h config s with ⟨r, t⟩
  cases hc ▸ create_created h config s with
  | unopened => exact opens
  | ready _ ready => exact prepared ready
  | unprepared _ unready => exact (prepared unready).close

/-! ### The remote in memory -/

/-- The full ref that an event of the publisher tells to have been pushed for real. -/
def auditedRef? (e : Log.Event) : Option String :=
  if e.source = source ∧ e.name = "ref_pushed" then
    match e.fields.lookup "dry_run", e.fields.lookup "kind", e.fields.lookup "ref" with
    | some (.bool false), some (.text word), some (.text name) =>
      (Ref.Kind.ofWord? word).map (·.fullRef name)
    | _, _, _ => none
  else none

/-- The refs that events tell to have been pushed for real, in order. -/
def auditedRefs (es : List Log.Event) : List String := es.filterMap auditedRef?

theorem auditedRefs_append (xs ys : List Log.Event) :
    auditedRefs (xs ++ ys) = auditedRefs xs ++ auditedRefs ys :=
  List.filterMap_append

/-- The event about a push tells the ref, unless the push was simulated. -/
theorem auditedRef?_pushedEvent (config : Config) (kind : Ref.Kind) (name : String) :
    auditedRef? (pushedEvent config kind name) =
      if config.dryRun then none else some (kind.fullRef name) := by
  cases kind <;> cases dryRun : config.dryRun <;>
    simp [auditedRef?, pushedEvent, refEvent, Log.Event.make, dryRun, Ref.Kind.word,
      Ref.Kind.ofWord?, List.lookup_cons]

/-- The events of a trail tell a push for real exactly if the result says that the ref was pushed
and pushes are not simulated. -/
theorem EventTrail.auditedRefs_eq {config : Config} {kind : Ref.Kind} {name : String}
    {r : Except Raised Outcome} {made : List Exchange} {own : List Log.Event}
    (trail : EventTrail config kind name r made own) :
    auditedRefs own =
      if saysPushed r = true ∧ config.dryRun = false then [kind.fullRef name] else [] := by
  have present : auditedRef? (presentEvent config kind name) = none := by
    simp [auditedRef?, presentEvent, refEvent, Log.Event.make]
  have pushing : auditedRef? (pushingEvent config kind name) = none := by
    simp [auditedRef?, pushingEvent, refEvent, Log.Event.make]
  cases trail with
  | ended => rfl
  | present => simp [auditedRefs, present, saysPushed]
  | failed => simp [auditedRefs, pushing, saysPushed]
  | pushed =>
    cases dryRun : config.dryRun <;>
      simp [auditedRefs, pushing, auditedRef?_pushedEvent, dryRun, saysPushed]

section Remote

variable {config : Config} {m : Memory} {s t : Session Memory}

/-- The repository in memory tells nothing. -/
theorem memory_silent (e : Log.Event) : ¬ SpokenBy Memory.handle e := by
  rintro ⟨c, m, spoken⟩
  simp only [Memory.handle, Memory.reply] at spoken
  split at spoken <;> cases spoken

/-- The remote holds what it held before and the refs that the events tell to have been pushed for
real. -/
def Faithful (m : Memory) (s : Session Memory) : Prop :=
  s.state.remoteRefs = m.remoteRefs ++ auditedRefs s.events

/-- Without a push the events stay faithful. -/
theorem Faithful.untouched (faithful : Faithful m s) (untouched : Untouched s t)
    (events : auditedRefs t.events = auditedRefs s.events) : Faithful m t := by
  rw [Faithful, untouched.keeps.remoteRefs, events]
  exact faithful

/-- Publishing a ref keeps the events faithful, if the repository is in the mode that they tell. -/
theorem Faithful.publish (faithful : Faithful m s) (mode : s.state.dryRun = config.dryRun)
    (kind : Ref.Kind) (name : String) :
    Faithful m (Publisher.publish Memory.handle config kind name s).2 := by
  obtain ⟨made, own, recorded, trail⟩ := publish_eventTrail config kind name Memory.handle s
  obtain ⟨since, events, among⟩ := recorded.events
  obtain rfl := among.eq_of_silent memory_silent
  unfold Faithful at faithful ⊢
  rw [events, auditedRefs_append, ← List.append_assoc, ← faithful, trail.auditedRefs_eq,
    (publish_effect config kind name s).remoteRefs_eq, mode]

/-- Publishing refs one after the other keeps the events faithful. -/
theorem Faithful.each (faithful : Faithful m s) (mode : s.state.dryRun = config.dryRun)
    (refs : List (Ref.Kind × String)) :
    Faithful m (Work.each (publications config refs) s).2 := by
  -- On the rest of the refs: a publication leaves the mode as it is, so the next one may rely on it.
  induction refs generalizing s with
  | nil => exact faithful
  | cons ref rest ih =>
    exact ih (faithful.publish mode ref.1 ref.2) ((publish_dryRun config ref.1 ref.2 s).trans mode)

/-- A release keeps the events faithful, however many of its calls fail. -/
theorem release_faithful (config : Config) (m : Memory) (refs : List (Ref.Kind × String)) :
    Faithful m (release Memory.handle config refs (.start m)).2 := by
  have created : Faithful m (create Memory.handle config (.start m)).2 := by
    obtain ⟨made, own, recorded, known⟩ := create_opening config Memory.handle (.start m)
    obtain ⟨since, events, among⟩ := recorded.events
    obtain rfl := among.eq_of_silent memory_silent
    have atFirst : Faithful m (.start m) := (List.append_nil _).symm
    refine atFirst.untouched (create_untouched config _) ?_
    -- The events of an opening tell no push.
    rw [events, auditedRefs_append, List.append_right_eq_self]
    refine List.filterMap_eq_nil_iff.2 fun e member => ?_
    rcases known e member with rfl | rfl <;>
      simp [auditedRef?, checkoutEvent, dryRunEvent, Log.Event.make]
  rw [release_run]
  rcases hc : create Memory.handle config (.start m) with ⟨e | _, t⟩ <;> rw [hc] at created
  · exact created
  · exact created.each (create_ready hc).2 refs

end Remote

/-! ### Releases -/

/-- The computations that publish refs over a handle, one after the other. -/
def publishEach (h : Handle σ) (config : Config) (refs : List (Ref.Kind × String)) :
    List (Work σ Outcome) :=
  refs.map fun ref => publish h config ref.1 ref.2

/-- The session after the first of some refs were published. -/
def afterFirst (h : Handle σ) (config : Config) (refs : List (Ref.Kind × String))
    (s : Session σ) (count : Nat) : Session σ :=
  (Work.each ((publishEach h config refs).take count) s).2

/-- The events of a release audit it. Let refs be published one after the other with a publisher,
each whatever the earlier ones came to.

- Over any handle, whatever it answers and however it fails, each publication leaves own events of
  the publisher behind, with those of the handle in between, and they tell how it went. If the
  handle never speaks as the publisher, they are picked out by who speaks.
- Over the repository in memory, whatever failures are planned, a release leaves the remote with
  what it had and with the refs that the events tell to have been pushed for real, in order. -/
theorem events_audit_releases (config : Config) (refs : List (Ref.Kind × String)) :
    (∀ {σ : Type} (h : Handle σ) (s : Session σ) (i : Nat) (kind : Ref.Kind) (name : String)
        (r : Except Raised Outcome),
      refs[i]? = some (kind, name) → (Work.each (publishEach h config refs) s).1[i]? = some r →
      let before := afterFirst h config refs s i
      let after := afterFirst h config refs s (i + 1)
      ∃ made own, Recorded h before after made own ∧ Audited config kind name r made own ∧
        ((∀ e, SpokenBy h e → e.source ≠ source) →
          (after.events.drop before.events.length).filter
            (fun e => decide (e.source = source)) = own)) ∧
    ∀ m : Memory,
      let done := (release Memory.handle config refs (.start m)).2
      done.state.remoteRefs = m.remoteRefs ++ auditedRefs done.events := by
  refine ⟨?_, fun m => release_faithful config m refs⟩
  intro σ h s i kind name r request result before after
  have here : (publishEach h config refs)[i]? = some (publish h config kind name) := by
    simp [publishEach, request]
  obtain ⟨answer, next⟩ := each_getElem? (s := s) here
  obtain ⟨made, own, recorded, trail⟩ := publish_eventTrail config kind name h before
  obtain rfl : r = (publish h config kind name before).1 :=
    Option.some.inj (result.symm.trans answer)
  have same : after = (publish h config kind name before).2 := next
  refine ⟨made, own, same ▸ recorded, trail.audited, fun foreign => ?_⟩
  obtain ⟨since, events, among⟩ := recorded.events
  rw [same, events, List.drop_left]
  exact among.filter_eq foreign fun e member => (trail.audited.about e member).1

/-- A configuration in which tags start like branches. -/
def likeBranches : Config := ⟨false, 0, ⟨"."⟩, "master", "origin", "release-"⟩

/-- A repository that has a branch and a tag with one name, and whose first push is interrupted. -/
def oneName : Memory :=
  ⟨["release-1.0.0-rc"], ["release-1.0.0-rc"], ["refs/heads/master"], false, none,
    fun k => if k = .push then [some (.plain (.interrupted ""))] else []⟩

/-- Both refs. -/
def bothRefs : List (Ref.Kind × String) :=
  [(.branch, "release-1.0.0-rc"), (.tag, "release-1.0.0-rc")]

/-- The push of the branch is interrupted. The events tell that it was going to be made, and that
the tag was pushed. -/
theorem events_audit_releases_after_interrupt :
    let after := afterFirst Memory.handle likeBranches bothRefs (.start oneName)
    (∃ made, Recorded Memory.handle (after 0) (after 1) made
      [pushingEvent likeBranches .branch "release-1.0.0-rc"]) ∧
    (∃ made, Recorded Memory.handle (after 1) (after 2) made
      [pushingEvent likeBranches .tag "release-1.0.0-rc",
        pushedEvent likeBranches .tag "release-1.0.0-rc"]) ∧
    auditedRefs (release Memory.handle likeBranches bothRefs (.start oneName)).2.events
      = ["refs/tags/release-1.0.0-rc"] := by
  intro after
  obtain ⟨steps, remote⟩ := events_audit_releases likeBranches bothRefs
  refine ⟨?_, ?_, ?_⟩
  · obtain ⟨made, own, recorded, audited, -⟩ := steps Memory.handle (.start oneName) 0 .branch
      "release-1.0.0-rc" (.error (.plain (.interrupted ""))) rfl rfl
    have trace : made = [⟨.hasLocalBranch "release-1.0.0-rc", .ok true⟩,
        ⟨.hasRemoteBranch "release-1.0.0-rc", .ok false⟩,
        ⟨.push "refs/heads/release-1.0.0-rc", .error (.plain (.interrupted ""))⟩] :=
      recorded.exchanges.symm
    have pushed : ⟨.push "refs/heads/release-1.0.0-rc", .error (.plain (.interrupted ""))⟩ ∈ made :=
      by simp [trace]
    obtain rfl := audited.failed.2 ⟨⟨_, rfl⟩, _, pushed⟩
    exact ⟨made, recorded⟩
  · obtain ⟨made, own, recorded, audited, -⟩ := steps Memory.handle (.start oneName) 1 .tag
      "release-1.0.0-rc" (.ok ⟨"release-1.0.0-rc", .tag, true, false⟩) rfl rfl
    obtain rfl := audited.pushed.2 ⟨_, rfl, rfl⟩
    exact ⟨made, recorded⟩
  · have grown : (release Memory.handle likeBranches bothRefs (.start oneName)).2.state.remoteRefs
        = ["refs/heads/master"] ++ ["refs/tags/release-1.0.0-rc"] := rfl
    exact List.append_cancel_left ((remote oneName).symm.trans grown)

end ReleaseRefs.Proofs.Publish
