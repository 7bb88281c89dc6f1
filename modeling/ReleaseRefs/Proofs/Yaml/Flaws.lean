import ReleaseRefs.Yaml.Document

/-!
# `ReleaseRefs.Proofs.Yaml.Flaws`: how reading a document fails

A document that does not follow the rules has a flaw, which is one kind of failure. But reading also
raises failures of other kinds, about dates that do not exist and the like. `isReadingKind` lists
all kinds there are, and `Yields` says of a step of reading that it fails in no other way, and that
what it yields has a property.

- `Yields.bind` chains two steps; with it, and with one lemma for each function of the scanner and
  of the reader of nodes, the proof for a function follows its text.
- `run_stop`: what stops the scanner is a failure of these kinds.
- `ofTokens_reads`: reading the nodes fails in no other way.
-/

set_option autoImplicit false

namespace ReleaseRefs.Proofs.Yaml

open ReleaseRefs.Yaml

/-- The kinds of failure that reading a document has. -/
def isReadingKind : FaultKind → Bool
  | .yaml | .recursion | .value | .type | .key | .index | .attribute | .overflow => true
  | _ => false

/-- The failure is one that reading a document has. -/
def OfReading : Failure → Prop
  | .fault kind _ => isReadingKind kind
  | _ => False

/-! ### Steps of reading -/

/-- A step of reading yields something that has a property, or fails as reading does. -/
def Yields {α : Type} (p : α → Prop) : Except Failure α → Prop
  | .ok a => p a
  | .error e => OfReading e

/-- A step of reading fails in no other way than reading does. -/
abbrev Reads {α : Type} (x : Except Failure α) : Prop := Yields (fun _ => True) x

section Steps

variable {α β : Type} {p : α → Prop} {q : β → Prop}

@[grind .]
theorem ofReading_flaw (m : String) : OfReading (flaw m) := rfl

@[grind =]
theorem yields_ok (a : α) : Yields p (.ok a : Except Failure α) ↔ p a := Iff.rfl

@[grind =]
theorem yields_error (e : Failure) : Yields p (.error e : Except Failure α) ↔ OfReading e := Iff.rfl

theorem yields_flaw (m : String) : Yields p (.error (flaw m) : Except Failure α) := ofReading_flaw m

@[grind →]
theorem Yields.error {x : Except Failure α} (h : Yields p x) {e : Failure} (same : x = .error e) :
    OfReading e := by
  subst same
  exact h

@[grind →]
theorem Yields.ok {x : Except Failure α} (h : Yields p x) {a : α} (same : x = .ok a) : p a := by
  subst same
  exact h

@[grind =]
theorem yields_map {x : Except Failure α} (f : α → β) :
    Yields q (x.map f) ↔ Yields (fun a => q (f a)) x := by
  cases x <;> exact Iff.rfl

theorem yields_ite {c : Prop} [Decidable c] {x y : Except Failure α} (pos : Yields p x)
    (neg : Yields p y) : Yields p (if c then x else y) := by
  split
  · exact pos
  · exact neg

theorem Yields.bind {x : Except Failure α} {f : α → Except Failure β} (first : Yields p x)
    (rest : ∀ a, p a → Yields q (f a)) : Yields q (x >>= f) := by
  cases x with
  | ok a => exact rest a first
  | error e => exact first

grind_pattern Yields.bind => Yields p x, Yields q (x >>= f)

theorem Yields.mono {r : α → Prop} {x : Except Failure α} (h : Yields p x)
    (more : ∀ a, p a → r a) : Yields r x := by
  cases x with
  | ok a => exact more a h
  | error e => exact h

theorem Yields.reads {x : Except Failure α} (h : Yields p x) : Reads x := h.mono fun _ _ => trivial

theorem Yields.mapM {f : α → Except Failure β} (each : ∀ a, Yields q (f a)) (xs : List α) :
    Yields (fun ys => ∀ y ∈ ys, q y) (xs.mapM f) := by
  induction xs with
  | nil => exact List.forall_mem_nil _
  | cons x xs ih =>
    rw [List.mapM_cons]
    refine (each x).bind fun y first => ih.bind fun ys rest => ?_
    exact List.forall_mem_cons.2 ⟨first, rest⟩

end Steps

/-! ### The scanner -/

section Scanner

variable (c : Cursor) (s : Scanner) (t : Token)

theorem scanName_reads : Reads (scanName c) := by grind [scanName]

theorem scanEscapes_reads (fuel : Nat) : Reads (scanEscapes fuel c) := by
  fun_induction scanEscapes fuel c <;> grind

theorem scanTagText_reads (fuel : Nat) : Reads (scanTagText fuel c) := by
  fun_induction scanTagText fuel c <;> grind [scanEscapes_reads]

theorem scanTagUri_reads : Reads (scanTagUri c) := by grind [scanTagUri, scanTagText_reads]

theorem scanHandle_reads : Reads (scanHandle c) := by grind [scanHandle]

theorem scanTagParts_reads : Reads (scanTagParts c) := by
  grind [scanTagParts, scanTagUri_reads, scanHandle_reads]

theorem scanTag_reads : Reads (scanTag c) := by grind [scanTag, scanTagParts_reads]

/-- A version may have a number with more digits than are read. -/
theorem scanVersionNumber_reads : Reads (scanVersionNumber c) := by
  grind [scanVersionNumber, OfReading, isReadingKind]

theorem scanVersion_reads : Reads (scanVersion c) := by grind [scanVersion, scanVersionNumber_reads]

theorem scanTagDirective_reads : Reads (scanTagDirective c) := by
  grind [scanTagDirective, scanHandle_reads, scanTagUri_reads]

theorem scanLineEnd_reads : Reads (scanLineEnd c) := by grind [scanLineEnd]

theorem scanDirective_reads : Reads (scanDirective c) := by
  grind [scanDirective, scanVersion_reads, scanTagDirective_reads, scanLineEnd_reads]

theorem scanBlockHeader_reads : Reads (scanBlockHeader c) := by
  grind [scanBlockHeader, scanLineEnd_reads]

theorem scanBlock_reads (folded : Bool) (outer : Int) : Reads (scanBlock folded outer c) := by
  grind [scanBlock, scanBlockHeader_reads]

/-- An escape may stand for a number that is no code point. -/
theorem charsOfNumber_reads (n : Nat) : Reads (charsOfNumber n) := by
  grind [charsOfNumber, OfReading, isReadingKind]

theorem scanQuotedBreaks_reads (fuel : Nat) : Reads (scanQuotedBreaks fuel c) := by
  fun_induction scanQuotedBreaks fuel c <;> grind

theorem scanQuotedSpace_reads : Reads (scanQuotedSpace c) := by
  grind [scanQuotedSpace, scanQuotedBreaks_reads]

theorem scanEscape_reads : Reads (scanEscape c) := by
  grind [scanEscape, charsOfNumber_reads, scanQuotedBreaks_reads]

theorem scanQuotedBody_reads (double : Bool) (fuel : Nat) :
    Reads (scanQuotedBody double fuel c) := by
  fun_induction scanQuotedBody double fuel c <;> grind [scanEscape_reads, scanQuotedSpace_reads]

theorem scanQuoted_reads (double : Bool) : Reads (scanQuoted double c) := by
  grind [scanQuoted, scanQuotedBody_reads]

theorem giveKeyUp_reads : Reads s.giveKeyUp := by grind [Scanner.giveKeyUp]

theorem dropStale_reads : Reads s.dropStale := by grind [Scanner.dropStale]

theorem rememberKey_reads : Reads s.rememberKey := by grind [Scanner.rememberKey, giveKeyUp_reads]

theorem scanKeyStart_reads {read : Cursor → Except Failure (Token × Cursor)}
    (reads : ∀ c, Reads (read c)) : Reads (s.scanKeyStart read) := by
  grind [Scanner.scanKeyStart, rememberKey_reads]

theorem scanDirectiveLine_reads : Reads s.scanDirectiveLine := by
  grind [Scanner.scanDirectiveLine, giveKeyUp_reads, scanDirective_reads]

theorem scanBlockScalar_reads (folded : Bool) : Reads (s.scanBlockScalar folded) := by
  grind [Scanner.scanBlockScalar, giveKeyUp_reads, scanBlock_reads]

theorem scanColon_reads : Reads s.scanColon := by grind [Scanner.scanColon, giveKeyUp_reads]

theorem scanToken_reads : Reads s.scanToken := by
  unfold Scanner.scanToken
  -- One case for each character that a token may start with.
  simp only
  split
  · grind [Scanner.finish, giveKeyUp_reads]
  · repeat' apply yields_ite
    all_goals grind [Scanner.scanEdge, Scanner.scanOpen, Scanner.scanClose, Scanner.scanComma,
      Scanner.scanPlainScalar, giveKeyUp_reads, rememberKey_reads, scanColon_reads,
      scanDirectiveLine_reads, scanBlockScalar_reads, scanKeyStart_reads, scanName_reads,
      scanTag_reads, scanQuoted_reads]

theorem scanNext_reads : Reads s.scanNext := by
  grind [Scanner.scanNext, dropStale_reads, scanToken_reads]

end Scanner

/-- What stops the scanner, if anything does, is a failure that reading has. -/
theorem run_stop {fuel : Nat} {s : Scanner} {e : Failure}
    (stopped : (Scanner.run fuel s).2 = some e) : OfReading e := by
  fun_induction Scanner.run fuel s <;> grind [scanNext_reads]

/-! ### The reader of nodes -/

open Document

/-- What the source of tokens stopped at, if anything, is a failure that reading has. -/
def Sound (s : Source) : Prop := ∀ e, s.stop = some e → OfReading e

/-- The source that is left is sound. -/
abbrev LeavesSound {α : Type} (x : Except Failure (α × Source)) : Prop :=
  Yields (fun r => Sound r.2) x

section Source

variable {s : Source} (sound : Sound s)
include sound

theorem next_reads : Reads s.next := by grind [Source.next, Sound]

theorem nextIs_reads (ts : List Token) : Reads (nextIs s ts) := by grind [nextIs, next_reads]

theorem readAnchor_sound : LeavesSound (readAnchor s) := by
  refine (yields_map _).2 ((next_reads sound).mono fun t _ => ?_)
  split <;> exact sound

theorem readTag_sound : LeavesSound (readTag s) := by
  refine (yields_map _).2 ((next_reads sound).mono fun t _ => ?_)
  split <;> exact sound

theorem readProperties_sound : LeavesSound (readProperties s) := by
  have tagOf (s : Source) (handle : Option String) (suffix : String) :
      Reads (s.tagOf handle suffix) := by
    unfold Source.tagOf
    grind
  refine (readAnchor_sound sound).bind fun a behindAnchor => ?_
  refine (readTag_sound behindAnchor).bind fun t behindTag => ?_
  have finish (b : Option String × Source) (behind : Sound b.2) : LeavesSound (do
      let tag ← t.1.mapM fun x => b.2.tagOf x.1 x.2
      Except.ok ((⟨a.1 <|> b.1, tag⟩ : Properties), b.2)) := by
    refine Yields.bind (p := fun _ => True) ?_ fun tag _ => behind
    rcases t.1 with _ | ⟨handle, suffix⟩
    · trivial
    · exact (tagOf b.2 handle suffix).bind fun _ _ => trivial
  simp only
  split
  · exact (readAnchor_sound behindTag).bind finish
  · exact finish (none, t.2) behindTag

theorem readComma_sound (first : Bool) : Yields Sound (readComma first s) := by
  unfold readComma
  split
  · exact sound
  · refine (nextIs_reads sound _).bind fun found _ => ?_
    split
    · exact sound
    · exact yields_flaw _

end Source

/-- With some fuel, whatever reads nodes leaves the source sound. -/
structure NodesSound (fuel : Nat) : Prop where
  node {s : Source} (sound : Sound s) (block bare : Bool) : LeavesSound (readNode block bare fuel s)
  content {s : Source} (sound : Sound s) (block bare : Bool) (p : Properties) :
    LeavesSound (readContent block bare p fuel s)
  optional {s : Source} (sound : Sound s) (block bare : Bool) (stops : List Token) :
    LeavesSound (readOptional block bare stops fuel s)
  blockItems {s : Source} (sound : Sound s) : LeavesSound (readBlockItems fuel s)
  bareItems {s : Source} (sound : Sound s) : LeavesSound (readBareItems fuel s)
  value {s : Source} (sound : Sound s) (block : Bool) (stops : List Token) :
    LeavesSound (Document.readValue block stops fuel s)
  blockEntries {s : Source} (sound : Sound s) : LeavesSound (readBlockEntries fuel s)
  flowItems {s : Source} (sound : Sound s) (first : Bool) : LeavesSound (readFlowItems first fuel s)
  flowEntries {s : Source} (sound : Sound s) (first : Bool) :
    LeavesSound (readFlowEntries first fuel s)

section Nodes

variable {fuel : Nat} (ih : NodesSound fuel) {s : Source} (sound : Sound s)
include ih sound

theorem readNode_sound (block bare : Bool) : LeavesSound (readNode block bare (fuel + 1) s) := by
  unfold readNode
  split
  · exact (rfl : isReadingKind .recursion = true)
  · refine (next_reads sound).bind fun t _ => ?_
    split
    · refine (yields_map _).2 ?_
      unfold Source.resolve
      split
      · exact sound
      · exact yields_flaw _
    · refine (readProperties_sound sound).bind fun r behind => ?_
      refine (next_reads behind).bind fun t _ => ?_
      refine Yields.bind (p := fun _ => True) ?_ fun _ _ => ?_
      · unfold Source.checkAnchor
        grind
      · exact (yields_map _).2 (ih.content (s := r.2.enter) behind block bare r.1)

theorem readContent_sound (block bare : Bool) (p : Properties) :
    LeavesSound (readContent block bare p (fuel + 1) s) := by
  unfold readContent
  refine (next_reads sound).bind fun t _ => ?_
  split
  · exact sound
  · exact (yields_map _).2 (ih.flowItems (s := (s.add p.anchor _).2.rest) sound true)
  · exact (yields_map _).2 (ih.flowEntries (s := (s.add p.anchor _).2.rest) sound true)
  · split
    · exact (yields_map _).2 (ih.bareItems (s := (s.add p.anchor _).2) sound)
    · split
      · exact (yields_map _).2 (ih.blockItems (s := (s.add p.anchor _).2.rest) sound)
      · split
        · exact (yields_map _).2 (ih.blockEntries (s := (s.add p.anchor _).2.rest) sound)
        · split
          · exact sound
          · exact yields_flaw _

theorem readOptional_sound (block bare : Bool) (stops : List Token) :
    LeavesSound (readOptional block bare stops (fuel + 1) s) := by
  unfold readOptional
  refine (nextIs_reads sound _).bind fun found _ => ?_
  split
  · exact sound
  · exact ih.node sound block bare

theorem readBlockItems_sound : LeavesSound (readBlockItems (fuel + 1) s) := by
  unfold readBlockItems
  refine (next_reads sound).bind fun t _ => ?_
  split
  · refine (ih.optional (s := s.rest) sound _ _ _).bind fun x behind => ?_
    exact (ih.blockItems behind).bind fun xs rest => rest
  · exact sound
  · exact yields_flaw _

theorem readBareItems_sound : LeavesSound (readBareItems (fuel + 1) s) := by
  unfold readBareItems
  refine (next_reads sound).bind fun t _ => ?_
  split
  · refine (ih.optional (s := s.rest) sound _ _ _).bind fun x behind => ?_
    exact (ih.bareItems behind).bind fun xs rest => rest
  · exact sound

theorem readValue_sound (block : Bool) (stops : List Token) :
    LeavesSound (Document.readValue block stops (fuel + 1) s) := by
  unfold Document.readValue
  refine (next_reads sound).bind fun t _ => ?_
  split
  · exact ih.optional (s := s.rest) sound _ _ _
  · exact sound

theorem readBlockEntries_sound : LeavesSound (readBlockEntries (fuel + 1) s) := by
  unfold readBlockEntries
  refine (next_reads sound).bind fun t _ => ?_
  split
  · exact sound
  · refine (ih.optional (s := s.rest) sound _ _ _).bind fun k behindKey => ?_
    refine (ih.value behindKey _ _).bind fun v behindValue => ?_
    exact (ih.blockEntries behindValue).bind fun es rest => rest
  · exact yields_flaw _

theorem readFlowItems_sound (first : Bool) : LeavesSound (readFlowItems first (fuel + 1) s) := by
  unfold readFlowItems
  refine (nextIs_reads sound _).bind fun found _ => ?_
  split
  · exact sound
  · refine (readComma_sound sound first).bind fun s sound => ?_
    refine (next_reads sound).bind fun t _ => ?_
    split
    · exact sound
    · refine (ih.optional (s := (s.rest.enter.add none _).2) sound _ _ _).bind fun k behindKey => ?_
      refine (ih.value behindKey _ _).bind fun v behindValue => ?_
      exact (ih.flowItems (s := (v.2.complete _ _).leave) behindValue false).bind
        fun xs rest => rest
    · refine (ih.node sound _ _).bind fun x behind => ?_
      exact (ih.flowItems behind false).bind fun xs rest => rest

theorem readFlowEntries_sound (first : Bool) :
    LeavesSound (readFlowEntries first (fuel + 1) s) := by
  unfold readFlowEntries
  refine (nextIs_reads sound _).bind fun found _ => ?_
  split
  · exact sound
  · refine (readComma_sound sound first).bind fun s sound => ?_
    refine (next_reads sound).bind fun t _ => ?_
    split
    · exact sound
    · refine (ih.optional (s := s.rest) sound _ _ _).bind fun k behindKey => ?_
      refine (ih.value behindKey _ _).bind fun v behindValue => ?_
      exact (ih.flowEntries behindValue false).bind fun es rest => rest
    · refine (ih.node sound _ _).bind fun k behindKey => ?_
      exact (ih.flowEntries (s := k.2.addAbsent.2) behindKey false).bind fun es rest => rest

end Nodes

theorem nodes_sound (fuel : Nat) : NodesSound fuel := by
  induction fuel with
  | zero => constructor <;> intros <;> exact ofReading_flaw "a document is nested too deeply"
  | succ fuel ih =>
    exact ⟨readNode_sound ih, readContent_sound ih, readOptional_sound ih, readBlockItems_sound ih,
      readBareItems_sound ih, readValue_sound ih, readBlockEntries_sound ih, readFlowItems_sound ih,
      readFlowEntries_sound ih⟩

theorem readDirectives_sound {fuel : Nat} {versioned : Bool} {s : Source} (sound : Sound s) :
    Yields Sound (readDirectives fuel versioned s) := by
  induction fuel generalizing versioned s with
  | zero => exact sound
  | succ fuel ih =>
    unfold readDirectives
    refine (next_reads sound).bind fun t _ => ?_
    split
    · exact yields_ite (yields_flaw _) (yields_ite (yields_flaw _) (ih sound))
    · exact yields_ite (yields_flaw _) (ih sound)
    · exact ih sound
    · exact sound

theorem readMarked_sound (fuel : Nat) {s : Source} (sound : Sound s) :
    LeavesSound (readMarked fuel s) := by
  refine (readDirectives_sound sound).bind fun s sound => ?_
  refine (next_reads sound).bind fun t _ => ?_
  split
  · refine (next_reads (s := s.rest) sound).bind fun t _ => ?_
    split
    · exact sound
    · exact sound
    · exact sound
    · exact sound
    · exact (yields_map _).2 ((nodes_sound fuel).node (s := s.rest) sound _ _)
  · exact yields_flaw _

theorem readFirst_sound (fuel : Nat) {s : Source} (sound : Sound s) :
    LeavesSound (readFirst fuel s) := by
  refine (next_reads sound).bind fun t _ => ?_
  split
  · exact sound
  · exact readMarked_sound fuel sound
  · exact readMarked_sound fuel sound
  · exact (yields_map _).2
      ((nodes_sound fuel).node (s := { s with handles := Source.defaultHandles }) sound _ _)

theorem checkEnd_reads (fuel : Nat) {s : Source} (sound : Sound s) : Reads (checkEnd fuel s) := by
  refine (next_reads sound).bind fun t _ => ?_
  split
  · trivial
  · refine (readDirectives_sound (s := { s with handles := [] }) sound).bind fun s sound => ?_
    exact (next_reads sound).bind fun t _ => yields_flaw _
  · exact yields_flaw _

/-- Reading the nodes of a row of tokens fails in no other way than reading does. -/
theorem ofTokens_reads {tokens : List Token} {stop : Option Failure}
    (sound : ∀ e, stop = some e → OfReading e) : Reads (Document.ofTokens tokens stop) := by
  refine (readFirst_sound _ (s := ⟨tokens, stop, .empty, [], [], maxDepth⟩) sound).bind
    fun r behind => ?_
  exact (checkEnd_reads _ (s := dropEnds r.2) behind).bind fun _ _ => trivial

end ReleaseRefs.Proofs.Yaml
