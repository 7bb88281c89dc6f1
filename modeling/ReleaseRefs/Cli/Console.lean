import ReleaseRefs.Cli.Terminal
import ReleaseRefs.Text.Utf8

/-!
# `ReleaseRefs.Cli.Console`: the console for lines about results

All runs of a process print the lines about their results on one console. It writes all that it was
given so far, or nothing: a line with half of a character is not taken by standard output. Then the
line stays with the console, in front of all that is printed later.

- `Console.print` prints a line. `Console.complaint?` says why a console cannot write.
- `print_of_complaint`: such a console writes no line ever again, whatever the line is.
- `print_congr`: consoles with the same complaint do the same.
-/

set_option autoImplicit false

namespace ReleaseRefs.Cli

open Text.Utf8 (Unencodable unencodable? unencodable?_append_lineFeed)

/-- A console for lines about results. -/
@[ext]
structure Console where
  /-- The lines that were printed and are still to be written. -/
  unwritten : String
  /-- A line stays only if it could not be written. -/
  refused : unwritten = "" ∨ ∃ s, unwritten = s ++ "\n" ∧ (unencodable? s).isSome

namespace Console

/-- A console with nothing to write. -/
def blank : Console := ⟨"", .inl rfl⟩

/-- Prints a line. What is written is the line, behind those that are still to be written. -/
def print (c : Console) (line : String) : Except Unencodable String × Console :=
  let text := c.unwritten ++ printed line
  match found : unencodable? text with
  | none => (.ok text, blank)
  | some u => (.error u, ⟨text ++ "\n", .inr ⟨text, rfl, by simp [found]⟩⟩)

/-- Why the console cannot write, if there is something that it cannot write. -/
def complaint? (c : Console) : Option Unencodable := unencodable? c.unwritten

variable {c c' : Console} {u : Unencodable}

/-- A console has nothing to write, or it cannot write a line that it was given. -/
theorem blank_or_complaint (c : Console) :
    c = blank ∨ ∃ s u, c.unwritten = s ++ "\n" ∧ unencodable? s = some u ∧
      c.complaint? = some u := by
  rcases c.refused with nothing | ⟨s, kept, found⟩
  · exact .inl (Console.ext nothing)
  · obtain ⟨u, found⟩ := Option.isSome_iff_exists.1 found
    have complains := unencodable?_append_lineFeed found ""
    rw [String.append_empty, ← kept] at complains
    exact .inr ⟨s, u, kept, found, complains⟩

/-- Only a console with nothing to write has no complaint. -/
theorem complaint?_eq_none_iff : c.complaint? = none ↔ c = blank := by
  constructor
  · intro silent
    rcases blank_or_complaint c with same | ⟨_, _, -, -, complains⟩
    · exact same
    · cases silent.symm.trans complains
  · rintro rfl
    rfl

/-- What cannot be written is complained of, again and again. -/
theorem print_complaint (c : Console) (line : String) :
    (c.print line).2.complaint? =
      match (c.print line).1 with
      | .ok _ => none
      | .error u => some u := by
  unfold print
  simp only
  split
  · rfl
  · next u found =>
    have kept := unencodable?_append_lineFeed found ""
    rwa [String.append_empty] at kept

/-- A console with a complaint writes no line, and goes on complaining. -/
theorem print_of_complaint (complains : c.complaint? = some u) (line : String) :
    (c.print line).1 = .error u ∧ (c.print line).2.complaint? = some u := by
  have unwritable : unencodable? (c.unwritten ++ printed line) = some u := by
    rcases blank_or_complaint c with rfl | ⟨s, v, kept, found, same⟩
    · cases complains
    · cases complains.symm.trans same
      rw [kept]
      exact unencodable?_append_lineFeed found _
  have failed : (c.print line).1 = .error u := by
    unfold print
    simp only
    split
    · next taken => cases taken.symm.trans unwritable
    · next v found' =>
      cases found'.symm.trans unwritable
      rfl
  exact ⟨failed, by rw [print_complaint, failed]⟩

/-- A line is written exactly if standard output takes it behind what is still to be written. -/
theorem print_isOk_iff {line : String} :
    (∃ text, (c.print line).1 = .ok text) ↔ unencodable? (c.unwritten ++ printed line) = none := by
  unfold print
  simp only
  split
  · next taken => exact ⟨fun _ => taken, fun _ => ⟨_, rfl⟩⟩
  · next u found => simp [found]

/-- A line is written exactly if nothing was still to be written and the line has no halves. Then
the line is all that is written. -/
theorem print_eq_ok_iff {line text : String} :
    (c.print line).1 = .ok text ↔
      c.complaint? = none ∧ unencodable? (printed line) = none ∧ text = printed line := by
  cases complaint : c.complaint? with
  | some u =>
    rw [(print_of_complaint complaint line).1]
    exact ⟨nofun, nofun⟩
  | none =>
    obtain rfl := complaint?_eq_none_iff.1 complaint
    have alone : blank.unwritten ++ printed line = printed line := String.empty_append
    unfold print
    simp only
    split
    · next taken =>
      rw [alone] at taken ⊢
      simp [taken, eq_comm]
    · next v found =>
      rw [alone] at found
      simp [found]

/-- Consoles with the same complaint do the same with a line. -/
theorem print_congr (same : c'.complaint? = c.complaint?) (line : String) :
    (c'.print line).1 = (c.print line).1 ∧
      (c'.print line).2.complaint? = (c.print line).2.complaint? := by
  cases complaint : c.complaint? with
  | some u =>
    obtain ⟨failed, kept⟩ := print_of_complaint complaint line
    obtain ⟨failed', kept'⟩ := print_of_complaint (same.trans complaint) line
    exact ⟨failed'.trans failed.symm, kept'.trans kept.symm⟩
  | none =>
    obtain rfl := complaint?_eq_none_iff.1 complaint
    obtain rfl := complaint?_eq_none_iff.1 same
    exact ⟨rfl, rfl⟩

end Console

end ReleaseRefs.Cli
