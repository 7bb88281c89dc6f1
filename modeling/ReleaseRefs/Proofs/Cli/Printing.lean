import Mathlib.Data.List.Basic
import ReleaseRefs.Cli.Terminal

/-!
# `ReleaseRefs.Proofs.Cli.Printing`: texts that are printed as they stand

What is printed has pictures for their names, blanks for tabs, and no control characters that move
the cursor. This module says of which texts that leaves all as it is.

- `namesIn` lists the names that stand between two colons, as they are found from left to right
  (`closed?`). `namesIn_append` cuts a text where no name reaches across.
- `Inert` says of characters that no colon is among them and nothing else that printing takes away.
  All pictures are inert (`emojiFor?_inert`), so a picture never reads like the name it replaces.
  `replaceEmoji_eq_self_iff`: characters stay as they are exactly if no name in them has a picture.
- `Verbatim` puts together what a text must be like to be printed as it stands, and
  `printed_eq_self_iff` says that it is enough.
-/

set_option autoImplicit false

namespace ReleaseRefs.Proofs.Cli

open ReleaseRefs.Cli

/-! ### Names between colons -/

/-- Behind a colon: the name up to the colon that closes it, and what stands behind that colon. -/
def closed? (cs : List Char) : Option (List Char × List Char) :=
  match cs.dropWhile isEmojiNameChar with
  | ':' :: rest => some (cs.takeWhile isEmojiNameChar, rest)
  | _ => none

/-- A name is closed by the first colon, if nothing but characters of names stands in front. -/
theorem closed?_eq_some_iff {cs name rest : List Char} :
    closed? cs = some (name, rest) ↔
      cs = name ++ ':' :: rest ∧ ∀ c ∈ name, isEmojiNameChar c = true := by
  have colon : isEmojiNameChar ':' = false := by decide
  constructor
  · intro found
    unfold closed? at found
    split at found
    · next behind =>
      cases found
      refine ⟨?_, fun c member => List.all_eq_true.1 (List.all_takeWhile ..) c member⟩
      rw [← behind, List.takeWhile_append_dropWhile]
    · cases found
  · rintro ⟨rfl, characters⟩
    rw [closed?, List.dropWhile_append_of_pos characters, List.takeWhile_append_of_pos characters,
      List.dropWhile_cons_of_neg (by simp [colon]), List.takeWhile_cons_of_neg (by simp [colon]),
      List.append_nil]
    rfl

/-- What closes no name does not close one for what stands in front of it. -/
theorem closed?_append {ys : List Char} (unclosed : closed? ys = none) (xs : List Char) :
    closed? (xs ++ ys) = (closed? xs).map fun found => (found.1, found.2 ++ ys) := by
  have never {name rest : List Char} (characters : ∀ c ∈ name, isEmojiNameChar c = true)
      (same : ys = name ++ ':' :: rest) : False := by
    cases unclosed.symm.trans (closed?_eq_some_iff.2 ⟨same, characters⟩)
  cases here : closed? xs with
  | some found =>
    obtain ⟨rfl, characters⟩ := closed?_eq_some_iff.1 here
    exact closed?_eq_some_iff.2 ⟨by simp, characters⟩
  | none =>
    rw [Option.map_none, Option.eq_none_iff_forall_ne_some]
    rintro ⟨name, rest⟩ found
    obtain ⟨same, characters⟩ := closed?_eq_some_iff.1 found
    -- The colon stands in the first part, or it would close a name in the second one.
    rcases List.append_eq_append_iff.1 same with ⟨middle, rfl, back⟩ | ⟨middle, rfl, back⟩
    · exact never (fun c member => characters c (List.mem_append_right _ member)) back
    · cases middle with
      | nil =>
        have atOnce : ys = [] ++ ':' :: rest := back.symm
        exact never (by simp) atOnce
      | cons d middle =>
        obtain ⟨rfl, -⟩ := List.cons.inj back
        cases here.symm.trans (closed?_eq_some_iff.2 ⟨rfl, fun c member => characters c member⟩)

/-- Without a colon no name is closed. -/
theorem closed?_of_no_colon {cs : List Char} (noColon : ':' ∉ cs) : closed? cs = none := by
  rw [Option.eq_none_iff_forall_ne_some]
  rintro ⟨name, rest⟩ found
  obtain ⟨rfl, -⟩ := closed?_eq_some_iff.1 found
  exact noColon (by simp)

/-- No name is closed behind a blank. -/
theorem closed?_blank {c : Char} (blank : Text.isBlank c = true) (noColon : c ≠ ':')
    (cs : List Char) : closed? (c :: cs) = none := by
  have noName : isEmojiNameChar c = false := by simp [isEmojiNameChar, blank]
  rw [closed?, List.dropWhile_cons_of_neg (by simp [noName])]
  split
  · next same => exact absurd (List.cons.inj same).1 noColon
  · rfl

/-- What stands behind a closed name is shorter. -/
theorem closed?_length {cs name rest : List Char} (found : closed? cs = some (name, rest)) :
    rest.length < cs.length := by
  obtain ⟨rfl, -⟩ := closed?_eq_some_iff.1 found
  simp
  omega

/-- The names between colons. A pair of colons is used once, whether its name is known or not. -/
def namesIn : List Char → List (List Char)
  | [] => []
  | c :: r =>
    if c = ':' then
      match found : closed? r with
      | some (name, rest) =>
        have _shorter : rest.length < r.length := closed?_length found
        name :: namesIn rest
      | none => namesIn r
    else namesIn r
termination_by cs => cs.length

theorem namesIn_cons_of_ne {c : Char} (noColon : c ≠ ':') (r : List Char) :
    namesIn (c :: r) = namesIn r := by
  rw [namesIn, if_neg noColon]

theorem namesIn_of_closed {r name rest : List Char} (found : closed? r = some (name, rest)) :
    namesIn (':' :: r) = name :: namesIn rest := by
  rw [namesIn, if_pos rfl]
  split
  · next same =>
    cases found.symm.trans same
    rfl
  · next same => cases found.symm.trans same

theorem namesIn_of_unclosed {r : List Char} (unclosed : closed? r = none) :
    namesIn (':' :: r) = namesIn r := by
  rw [namesIn, if_pos rfl]
  split
  · next same => cases unclosed.symm.trans same
  · rfl

/-- Where no name reaches across, the names of two texts are those of both. -/
theorem namesIn_append {ys : List Char} (unclosed : closed? ys = none) (xs : List Char) :
    namesIn (xs ++ ys) = namesIn xs ++ namesIn ys := by
  -- As the names of the first text are found. What is closed there is closed in both together, by
  -- the same colon, and what is not closed there is not closed by the second text.
  induction xs using namesIn.induct with
  | case1 => rw [namesIn, List.nil_append, List.nil_append]
  | case2 r name rest found _ ih =>
    have across := closed?_append unclosed r
    rw [found] at across
    rw [List.cons_append, namesIn_of_closed across, namesIn_of_closed found, ih, List.cons_append]
  | case3 r found ih =>
    have across := closed?_append unclosed r
    rw [found] at across
    rw [List.cons_append, namesIn_of_unclosed across, namesIn_of_unclosed found, ih]
  | case4 c r noColon ih =>
    rw [List.cons_append, namesIn_cons_of_ne noColon, namesIn_cons_of_ne noColon, ih]

/-- Without a colon there are no names. -/
theorem namesIn_of_no_colon {cs : List Char} (noColon : ':' ∉ cs) : namesIn cs = [] := by
  induction cs with
  | nil => rw [namesIn]
  | cons c r ih =>
    simp only [List.mem_cons, not_or] at noColon
    rw [namesIn_cons_of_ne (Ne.symm noColon.1), ih noColon.2]

/-- What stands in front without a colon has no part in names. -/
theorem namesIn_append_of_no_colon {xs : List Char} (noColon : ':' ∉ xs) (ys : List Char) :
    namesIn (xs ++ ys) = namesIn ys := by
  induction xs with
  | nil => rfl
  | cons c r ih =>
    simp only [List.mem_cons, not_or] at noColon
    rw [List.cons_append, namesIn_cons_of_ne (Ne.symm noColon.1), ih noColon.2]

/-! ### Pictures -/

/-- A character that is printed as it stands wherever it stands: neither a colon, nor a tab, nor a
control character that is dropped. -/
def IsInert (c : Char) : Prop := c ≠ ':' ∧ c ≠ '\t' ∧ isCursorControl c = false

instance : DecidablePred IsInert := fun c =>
  inferInstanceAs (Decidable (c ≠ ':' ∧ c ≠ '\t' ∧ isCursorControl c = false))

/-- Only such characters. -/
def Inert (cs : List Char) : Prop := ∀ c ∈ cs, IsInert c

instance : DecidablePred Inert := fun cs => List.decidableBAll IsInert cs

/-- Characters behind the control characters are inert, but for the colon. -/
theorem IsInert.of_point {c : Char} (place : c.toNat = 0 ∨ 13 < c.toNat)
    (noColon : c.toNat ≠ 58) : IsInert c := by
  refine ⟨fun same => noColon (same ▸ rfl), fun same => ?_, ?_⟩
  · subst same
    revert place
    decide
  · refine Bool.eq_false_iff.2 fun control => ?_
    simp only [isCursorControl, List.contains_eq_mem, decide_eq_true_eq, List.mem_cons,
      List.not_mem_nil, or_false] at control
    omega

/-- An octet of an inert text: no control character, and no colon. -/
def isInertOctet (b : UInt8) : Bool := Nat.blt 13 b.toNat && b.toNat != 58

/-- A character of ASCII is an octet of its text. -/
theorem octet_of_ascii {s : String} {c : Char} (member : c ∈ s.toList) (ascii : c.toNat < 128) :
    UInt8.ofNat c.toNat ∈ s.toByteArray.data.toList := by
  have octets : s.toByteArray.data.toList = s.toList.flatMap String.utf8EncodeChar := by
    conv_lhs => rw [← String.ofList_toList (s := s), String.toByteArray_ofList, List.utf8Encode,
      List.data_toByteArray]
  have single : String.utf8EncodeChar c = [UInt8.ofNat c.toNat] := by
    unfold String.utf8EncodeChar
    exact if_pos (Nat.le_of_lt_succ ascii)
  rw [octets]
  exact List.mem_flatMap.2 ⟨c, member, single ▸ List.mem_singleton_self _⟩

/-- Whether a text is inert can be seen from its octets. -/
theorem inert_of_octets {s : String}
    (octets : s.toByteArray.data.toList.all isInertOctet = true) : Inert s.toList := by
  intro c member
  by_cases ascii : c.toNat < 128
  · have octet := List.all_eq_true.1 octets _ (octet_of_ascii member ascii)
    have same : (UInt8.ofNat c.toNat).toNat = c.toNat := by
      simp only [UInt8.toNat_ofNat']
      omega
    rw [isInertOctet, same, Bool.and_eq_true, Nat.blt_eq, bne_iff_ne] at octet
    exact .of_point (.inr octet.1) octet.2
  · exact .of_point (.inr (by omega)) (by omega)

/-- All pictures with names of their own are inert. -/
theorem inert_of_named {name picture : String} (named : (name, picture) ∈ emojiNames) :
    Inert picture.toList := by
  -- Octets, because to decode all pictures would take too long here.
  have checked : (emojiNames.all fun p =>
      p.2.toByteArray.data.toList.all isInertOctet) = true := by decide +kernel
  exact inert_of_octets (List.all_eq_true.1 checked _ named)

/-- A picture in a tone of skin is inert if the picture and the tone are. -/
theorem inert_inTone {tone : Char} {picture : String} (character : IsInert tone)
    (inert : Inert picture.toList) : Inert (inTone tone picture).toList := by
  unfold inTone
  split
  · exact inert
  · next c r chars =>
    rw [chars] at inert
    rw [String.toList_ofList]
    intro d member
    simp only [List.mem_cons] at member
    rcases member with rfl | rfl | rest
    · exact inert d List.mem_cons_self
    · exact character
    · refine inert d (List.mem_cons_of_mem c ?_)
      cases r with
      | nil => exact absurd rest List.not_mem_nil
      | cons e t =>
        dsimp only at rest
        split at rest
        · exact List.mem_cons_of_mem e rest
        · exact rest

/-- A value that is looked up stands in the list. -/
theorem mem_of_lookup {α β : Type} [BEq α] [LawfulBEq α] {entries : List (α × β)} {a : α} {b : β}
    (found : entries.lookup a = some b) : (a, b) ∈ entries := by
  obtain ⟨xs, ys, rfl, -⟩ := List.lookup_eq_some_iff.1 found
  simp

/-- All flags are inert, whatever their code. -/
theorem inert_flag (code : String) : Inert (flagOfCode code).toList := by
  -- A number without a character stands for the first one, which is inert too.
  have sign {n : Nat} (high : 128 ≤ n) : IsInert (Char.ofNat n) := by
    by_cases valid : n.isValidChar
    · have whole : n < 0x110000 ∧ (n < 0xD800 ∨ 0xE000 ≤ n) := by
        unfold Nat.isValidChar at valid
        omega
      have place := Text.toNat_ofNat whole.1 whole.2
      exact .of_point (.inr (by omega)) (by omega)
    · rw [Char.ofNat, dif_neg valid]
      decide
  unfold flagOfCode
  dsimp only
  split <;> intro c member <;> rw [String.toList_ofList] at member
  · obtain ⟨letter, -, rfl⟩ := List.mem_map.1 member
    exact sign (by omega)
  · simp only [List.mem_cons, List.cons_append, List.mem_append, List.mem_map, List.not_mem_nil,
      or_false] at member
    rcases member with rfl | ⟨letter, -, rfl⟩ | rfl <;> exact sign (by omega)

/-- All pictures are inert. -/
theorem emojiFor?_inert {inner : List Char} {picture : String}
    (found : emojiFor? inner = some picture) : Inert picture.toList := by
  have tones : ∀ t ∈ skinTones, IsInert t.2 := by decide
  have variants : ∀ v ∈ emojiVariants, IsInert v.2 := by decide
  have named {name picture : String} (found : pictureFor? name = some picture) :
      Inert picture.toList := by
    unfold pictureFor? at found
    split at found
    · next known =>
      cases found
      exact inert_of_named (mem_of_lookup known)
    · split at found
      · next toned =>
        cases found
        obtain ⟨t, member, tone⟩ := List.exists_of_findSome?_eq_some toned
        dsimp only at tone
        split at tone
        · obtain ⟨base, known, rfl⟩ := Option.map_eq_some_iff.1 tone
          exact inert_inTone (tones t member) (inert_of_named (mem_of_lookup known))
        · cases tone
      · obtain ⟨code, -, rfl⟩ := Option.map_eq_some_iff.1 found
        exact inert_flag code
  unfold emojiFor? at found
  dsimp only at found
  split at found
  · next v variant =>
    obtain ⟨base, known, rfl⟩ := Option.map_eq_some_iff.1 found
    intro c member
    rw [String.toList_push, List.mem_append, List.mem_singleton] at member
    rcases member with within | rfl
    · exact named known c within
    · exact variants v (List.mem_of_find?_eq_some variant)
  · exact named found

/-! ### Replacing names -/

section Replacing

variable {fuel : Nat} {r name rest : List Char}

/-- The picture of a name, or the name with its colons. -/
def shownName (name : List Char) : List Char :=
  match emojiFor? name with
  | some e => e.toList
  | none => ':' :: name ++ [':']

theorem replaceEmoji_of_closed (found : closed? r = some (name, rest)) :
    replaceEmoji (fuel + 1) (':' :: r) = shownName name ++ replaceEmoji fuel rest := by
  unfold closed? at found
  split at found
  · next behind =>
    cases found
    rw [replaceEmoji, if_pos rfl]
    simp only [behind]
    rfl
  · cases found

theorem replaceEmoji_of_unclosed (unclosed : closed? r = none) :
    replaceEmoji (fuel + 1) (':' :: r) = ':' :: replaceEmoji fuel r := by
  unfold closed? at unclosed
  split at unclosed
  · cases unclosed
  · next other =>
    rw [replaceEmoji, if_pos rfl]
    split
    · next same => exact absurd same (other _)
    · rfl

theorem replaceEmoji_of_ne {c : Char} (noColon : c ≠ ':') :
    replaceEmoji (fuel + 1) (c :: r) = c :: replaceEmoji fuel r := by
  rw [replaceEmoji, if_neg noColon]

/-- What is shown for a name has no colons besides its own and the two around it. -/
theorem count_shownName_le (name : List Char) :
    (shownName name).count ':' ≤ name.count ':' + 2 := by
  unfold shownName
  cases found : emojiFor? name with
  | none => simp
  | some e =>
    have none : e.toList.count ':' = 0 :=
      List.count_eq_zero.2 fun member => (emojiFor?_inert found _ member).1 rfl
    simp [none]

/-- Replacing names adds no colons. -/
theorem count_replaceEmoji_le (fuel : Nat) (cs : List Char) :
    (replaceEmoji fuel cs).count ':' ≤ cs.count ':' := by
  induction fuel generalizing cs with
  | zero => exact Nat.le_refl _
  | succ fuel ih =>
    cases cs with
    | nil => exact Nat.le_refl _
    | cons c r =>
      by_cases colon : c = ':'
      · subst colon
        cases found : closed? r with
        | none =>
          rw [replaceEmoji_of_unclosed found, List.count_cons_self, List.count_cons_self]
          exact Nat.add_le_add_right (ih r) 1
        | some both =>
          obtain ⟨rfl, -⟩ := closed?_eq_some_iff.1 found
          have shown := count_shownName_le both.1
          have behind := ih both.2
          rw [replaceEmoji_of_closed found]
          simp only [List.count_append, List.count_cons_self]
          omega
      · rw [replaceEmoji_of_ne colon, List.count_cons, List.count_cons]
        exact Nat.add_le_add_right (ih r) _

/-- Replacing names leaves characters as they are exactly if no name in them has a picture. -/
theorem replaceEmoji_eq_self_iff {cs : List Char} (enough : cs.length ≤ fuel) :
    replaceEmoji fuel cs = cs ↔ ∀ name ∈ namesIn cs, emojiFor? name = none := by
  induction fuel generalizing cs with
  | zero =>
    obtain rfl := List.eq_nil_of_length_eq_zero (Nat.le_zero.1 enough)
    simp [replaceEmoji, namesIn]
  | succ fuel ih =>
    cases cs with
    | nil => simp [replaceEmoji, namesIn]
    | cons c r =>
      have short : r.length ≤ fuel := Nat.le_of_succ_le_succ enough
      by_cases colon : c = ':'
      · subst colon
        cases found : closed? r with
        | none =>
          rw [replaceEmoji_of_unclosed found, namesIn_of_unclosed found, List.cons.injEq, ih short]
          exact and_iff_right rfl
        | some both =>
          have shorter := closed?_length found
          obtain ⟨rfl, -⟩ := closed?_eq_some_iff.1 found
          rw [replaceEmoji_of_closed found, namesIn_of_closed found, List.forall_mem_cons,
            ← ih (show both.2.length ≤ fuel by omega)]
          cases known : emojiFor? both.1 with
          | none => simp [shownName, known]
          | some e =>
            -- A picture has no colons, so too few are left.
            refine iff_of_false (fun same => ?_) (fun all => Option.some_ne_none e all.1)
            have counted := congrArg (List.count ':') same
            have picture : e.toList.count ':' = 0 :=
              List.count_eq_zero.2 fun member => (emojiFor?_inert known _ member).1 rfl
            have behind := count_replaceEmoji_le fuel both.2
            simp only [shownName, known, List.count_append, List.count_cons_self] at counted
            omega
      · rw [replaceEmoji_of_ne colon, namesIn_cons_of_ne colon, List.cons.injEq, ih short]
        exact and_iff_right rfl

/-- A character that is there when names were replaced was there before, or it is one of a
picture. -/
theorem mem_replaceEmoji (fuel : Nat) {cs : List Char} {c : Char}
    (member : c ∈ replaceEmoji fuel cs) : c ∈ cs ∨ IsInert c := by
  induction fuel generalizing cs with
  | zero => exact .inl member
  | succ fuel ih =>
    cases cs with
    | nil => exact .inl member
    | cons d r =>
      by_cases colon : d = ':'
      · subst colon
        cases found : closed? r with
        | none =>
          rw [replaceEmoji_of_unclosed found, List.mem_cons] at member
          rw [List.mem_cons, or_assoc]
          exact member.imp_right ih
        | some both =>
          obtain ⟨rfl, -⟩ := closed?_eq_some_iff.1 found
          rw [replaceEmoji_of_closed found, List.mem_append] at member
          rcases member with shown | behind
          · unfold shownName at shown
            split at shown
            · next known => exact .inr (emojiFor?_inert known c shown)
            · left
              simp only [List.mem_cons, List.mem_append] at shown ⊢
              tauto
          · refine (ih behind).imp_left fun member => ?_
            simp [member]
      · rw [replaceEmoji_of_ne colon, List.mem_cons] at member
        rw [List.mem_cons, or_assoc]
        exact member.imp_right ih

end Replacing

/-! ### Tabs -/

/-- Without tabs nothing is put in their place. -/
theorem expandTabs_of_no_tab {cs : List Char} (noTab : '\t' ∉ cs) (column : Nat)
    (part : List Char) : expandTabs column part cs = part.reverse ++ cs := by
  induction cs generalizing column part with
  | nil => simp [expandTabs]
  | cons c r ih =>
    simp only [List.mem_cons, not_or] at noTab
    rw [expandTabs, if_neg (Ne.symm noTab.1)]
    split
    · rw [ih noTab.2]
      simp
    · rw [ih noTab.2]
      simp

/-- The characters behind an expansion of tabs are those in front of it and blanks, without tabs. -/
theorem mem_expandTabs {column : Nat} {part cs : List Char} (noTab : '\t' ∉ part) {c : Char}
    (member : c ∈ expandTabs column part cs) : c ≠ '\t' ∧ (c = ' ' ∨ c ∈ part ∨ c ∈ cs) := by
  have other {c : Char} {part : List Char} (noTab : '\t' ∉ part) (member : c ∈ part) : c ≠ '\t' :=
    fun tab => noTab (tab ▸ member)
  -- Behind a tab or a line feed nothing is in front.
  have behindStop {c d : Char} {part r : List Char} (known : c = ' ' ∨ c ∈ [] ∨ c ∈ r) :
      c = ' ' ∨ c ∈ part ∨ c ∈ d :: r :=
    known.imp_right (Or.imp (absurd · List.not_mem_nil) (List.mem_cons_of_mem d))
  induction cs generalizing column part with
  | nil =>
    rw [expandTabs, List.mem_reverse] at member
    exact ⟨other noTab member, .inr (.inl member)⟩
  | cons d r ih =>
    rw [expandTabs] at member
    split at member
    · next tab =>
      simp only [List.mem_append, List.mem_reverse, List.mem_singleton, List.mem_replicate]
        at member
      rcases member with ((before | rfl) | ⟨-, rfl⟩) | behind
      · exact ⟨other noTab before, .inr (.inl before)⟩
      · exact ⟨by decide, .inl rfl⟩
      · exact ⟨by decide, .inl rfl⟩
      · exact (ih List.not_mem_nil behind).imp_right behindStop
    · next noTab' =>
      split at member
      · next feed =>
        simp only [List.mem_append, List.mem_reverse, List.mem_cons] at member
        rcases member with before | rfl | behind
        · exact ⟨other noTab before, .inr (.inl before)⟩
        · exact ⟨noTab', .inr (.inr List.mem_cons_self)⟩
        · exact (ih List.not_mem_nil behind).imp_right behindStop
      · obtain ⟨noTab'', known⟩ := ih (by simp [noTab, Ne.symm noTab']) member
        refine ⟨noTab'', known.imp_right fun known => ?_⟩
        rw [List.mem_cons, or_comm, ← or_assoc, or_comm] at known
        rwa [List.mem_cons, or_comm (a := c = d)]

/-! ### Printing -/

/-- What printing leaves as it is: characters without a tab, without a control character that is
dropped, and without a name between colons that has a picture. -/
structure Verbatim (cs : List Char) : Prop where
  noTab : '\t' ∉ cs
  noControl : ∀ c ∈ cs, isCursorControl c = false
  noPicture : ∀ name ∈ namesIn cs, emojiFor? name = none

/-- Inert characters are printed as they stand. -/
theorem Verbatim.of_inert {cs : List Char} (inert : Inert cs) : Verbatim cs where
  noTab tab := (inert _ tab).2.1 rfl
  noControl c member := (inert c member).2.2
  noPicture := by
    rw [namesIn_of_no_colon fun colon => (inert _ colon).1 rfl]
    exact nofun

/-- Where no name reaches across, both parts must be printed as they stand. -/
theorem verbatim_append_iff {ys : List Char} (unclosed : closed? ys = none) (xs : List Char) :
    Verbatim (xs ++ ys) ↔ Verbatim xs ∧ Verbatim ys := by
  constructor
  · rintro ⟨noTab, noControl, noPicture⟩
    rw [namesIn_append unclosed] at noPicture
    simp only [List.mem_append, not_or] at noTab noControl noPicture
    exact ⟨⟨noTab.1, fun c member => noControl c (.inl member),
        fun name member => noPicture name (.inl member)⟩,
      ⟨noTab.2, fun c member => noControl c (.inr member),
        fun name member => noPicture name (.inr member)⟩⟩
  · rintro ⟨front, back⟩
    refine ⟨?_, ?_, ?_⟩
    · simp [front.noTab, back.noTab]
    · intro c member
      exact (List.mem_append.1 member).elim (front.noControl c) (back.noControl c)
    · rw [namesIn_append unclosed]
      intro name member
      exact (List.mem_append.1 member).elim (front.noPicture name) (back.noPicture name)

/-- Inert characters behind others make no difference. -/
theorem verbatim_append_inert_iff {ys : List Char} (inert : Inert ys) (xs : List Char) :
    Verbatim (xs ++ ys) ↔ Verbatim xs := by
  rw [verbatim_append_iff (closed?_of_no_colon fun colon => (inert _ colon).1 rfl),
    and_iff_left (.of_inert inert)]

/-- Inert characters in front of others make no difference. -/
theorem verbatim_inert_append_iff {xs : List Char} (inert : Inert xs) (ys : List Char) :
    Verbatim (xs ++ ys) ↔ Verbatim ys := by
  have names := namesIn_append_of_no_colon (fun colon => (inert _ colon).1 rfl) ys
  constructor
  · rintro ⟨noTab, noControl, noPicture⟩
    rw [names] at noPicture
    exact ⟨fun tab => noTab (List.mem_append_right xs tab),
      fun c member => noControl c (List.mem_append_right xs member), noPicture⟩
  · intro back
    refine ⟨fun tab => ?_, fun c member => ?_, names ▸ back.noPicture⟩
    · exact (List.mem_append.1 tab).elim (fun front => (inert _ front).2.1 rfl) back.noTab
    · exact (List.mem_append.1 member).elim (fun front => (inert c front).2.2) (back.noControl c)

/-- A text is printed as it stands exactly if it has nothing that printing takes away. -/
theorem printed_eq_self_iff {s : String} : printed s = s ↔ Verbatim s.toList := by
  have chars : (withEmoji s).toList = replaceEmoji s.toList.length s.toList :=
    String.toList_ofList
  have kept {cs : List Char} (noTab : '\t' ∉ cs) (noControl : ∀ c ∈ cs, isCursorControl c = false) :
      expandTabs 0 [] (cs.filter fun c => !isCursorControl c) = cs := by
    rw [List.filter_eq_self.2 fun c member => by simp [noControl c member],
      expandTabs_of_no_tab noTab, List.reverse_nil, List.nil_append]
  constructor
  · intro same
    have behind : expandTabs 0 [] ((withEmoji s).toList.filter fun c => !isCursorControl c)
        = s.toList := by
      rw [← String.toList_ofList (l := expandTabs _ _ _)]
      exact congrArg String.toList same
    -- Tabs and control characters do not outlast printing, and pictures bring along none. So there
    -- were none before either, and all that can have changed the text are names.
    have known (c : Char) (member : c ∈ s.toList) : c ≠ '\t' ∧ isCursorControl c = false := by
      obtain ⟨noTab, origin⟩ := mem_expandTabs (by simp) (behind ▸ member)
      refine ⟨noTab, ?_⟩
      rcases origin with rfl | within | within
      · decide
      · cases within
      · simpa using (List.mem_filter.1 within).2
    have pictured (c : Char) (member : c ∈ (withEmoji s).toList) :
        c ≠ '\t' ∧ isCursorControl c = false := by
      rcases mem_replaceEmoji _ (chars ▸ member) with before | picture
      · exact known c before
      · exact picture.2
    rw [kept (fun tab => (pictured _ tab).1 rfl) fun c member => (pictured c member).2, chars]
      at behind
    exact ⟨fun tab => (known _ tab).1 rfl, fun c member => (known c member).2,
      (replaceEmoji_eq_self_iff (Nat.le_refl _)).1 behind⟩
  · intro verbatim
    rw [printed, chars, (replaceEmoji_eq_self_iff (Nat.le_refl _)).2 verbatim.noPicture,
      kept verbatim.noTab verbatim.noControl, String.ofList_toList]

end ReleaseRefs.Proofs.Cli
