import ReleaseRefs.Cli.Switch
import ReleaseRefs.Ref.Kind

/-!
# `ReleaseRefs.Cli.Help`: the commands and what they say about themselves

- `Command` is the tool as a whole or one of its commands, `Command.grammar` has its switches.
- `Command.usage` is the line on how to call it, `Command.help` the whole page.
- `wrapWords_ne_nil`: a wrapped text has a line.
-/

set_option autoImplicit false

namespace ReleaseRefs.Cli

/-- The tool as a whole, or the command that publishes refs of a kind. -/
inductive Command where
  | tool
  | publish (kind : Ref.Kind)
  deriving DecidableEq, Repr

/-- The name and version that the tool gives itself. -/
def toolName : String := "ref-publisher"
def toolVersion : String := "0.1.0"

/-- What the tool answers when asked for its version. -/
def versionText : String := toolName ++ ", version " ++ toolVersion

/-! ### Laying out a page -/

/-- Words put into lines of a width; a word that is longer has a line of its own. -/
def wrapWords (width : Nat) : (line : String) → List String → List String
  | line, [] => [line]
  | line, w :: ws =>
    if (line ++ " " ++ w).length ≤ width then wrapWords width (line ++ " " ++ w) ws
    else line :: wrapWords width w ws

/-- A text wrapped between its blanks. -/
def wrapText (width : Nat) (s : String) : List String :=
  match (Text.splitAt ' ' s.toList).map String.ofList with
  | [] => [""]
  | w :: ws => wrapWords width w ws

/-- A wrapped text has a line. -/
theorem wrapWords_ne_nil (width : Nat) (line : String) (words : List String) :
    wrapWords width line words ≠ [] := by
  induction words generalizing line with
  | nil => simp [wrapWords]
  | cons w ws ih =>
    unfold wrapWords
    split
    · exact ih _
    · simp

def pageWidth : Nat := 78

/-- The blanks between two columns. -/
def columnGap : Nat := 2

/-- A row of a page: what is described, and its description. -/
structure Entry where
  name : String
  text : String
  deriving DecidableEq, Repr

/-- One row as lines, the descriptions starting at a column. -/
def entryLines (column : Nat) (e : Entry) : List String :=
  let gap := fun n : Nat => "".pushn ' ' n
  match wrapText (pageWidth - column - columnGap) e.text with
  | [] => []
  | first :: others =>
    ("  " ++ e.name ++ gap (column - e.name.length) ++ first) ::
      others.map fun line => gap (column + columnGap) ++ line

/-- Rows under a heading, with an empty line before it. -/
def sectionLines (heading : String) (entries : List Entry) : List String :=
  let column := entries.foldl (fun n e => max n e.name.length) 0 + columnGap
  ["", heading ++ ":"] ++ entries.flatMap (entryLines column)

/-! ### The commands -/

namespace Command

/-- The command with a name. -/
def ofName? (name : String) : Option Ref.Kind := Ref.Kind.ofWord? name

/-- The names of the commands. -/
def names : List String := [Ref.Kind.branch, .tag].map Ref.Kind.word

/-- How the argument of a command is called. -/
def argument : Ref.Kind → String
  | .branch => "BRANCH_NAME"
  | .tag => "TAG_NAME"

/-- What the tool or a command is for. -/
def purpose : Command → String
  | .tool => "ref-publisher - idempotently push release branches and tags."
  | .publish .branch => "Publish release branch BRANCH_NAME (e.g. release-1.19)."
  | .publish .tag => "Publish release tag TAG_NAME (e.g. v1.19.0)."

/-- The switches of the tool and of the commands. -/
def grammar : Command → Grammar
  | .tool =>
    { long := [⟨"--version", .version, true⟩, ⟨"--config", .config, true⟩,
        ⟨"--verbose", .verbose, true⟩, ⟨"--quiet", .quiet, true⟩,
        ⟨"--help", .help, true⟩],
      short := [⟨"-c", .config, true⟩, ⟨"-v", .verbose, true⟩, ⟨"-q", .quiet, true⟩],
      mixed := false }
  | .publish _ =>
    { long := [⟨"--repo", .repo, true⟩, ⟨"--dry-run", .dryRun, true⟩,
        ⟨"--no-dry-run", .dryRun, false⟩, ⟨"--max-retries", .maxRetries, true⟩,
        ⟨"--remote", .remote, true⟩, ⟨"--help", .help, true⟩],
      short := [],
      mixed := true }

/-- The rows about the switches. -/
def switchEntries : Command → List Entry
  | .tool =>
    [⟨"--version", "Show the version and exit."⟩,
      ⟨"-c, --config PATH", "Path to config file (overrides project config)."⟩,
      ⟨"-v, --verbose", "Increase verbosity (-v for INFO, -vv for DEBUG)."⟩,
      ⟨"-q, --quiet", "Suppress non-essential output (ERROR level only)."⟩,
      ⟨"--help", "Show this message and exit."⟩]
  | .publish _ =>
    [⟨"--repo DIRECTORY", "Path to the repository (default: settings or cwd)."⟩,
      ⟨"--dry-run / --no-dry-run", "Simulate the push (default: on)."⟩,
      ⟨"--max-retries INTEGER RANGE", "Number of times to retry a failed push.  [x>=0]"⟩,
      ⟨"--remote TEXT", "Remote to publish to (default: origin)."⟩,
      ⟨"--help", "Show this message and exit."⟩]

/-- The rows about the commands. -/
def commandEntries : Command → List Entry
  | .tool => [Ref.Kind.branch, .tag].map fun k => ⟨k.word, purpose (.publish k)⟩
  | .publish _ => []

/-- The words that call the tool or a command; `program` is the name of the tool's program. -/
def path (program : String) : Command → String
  | .tool => program
  | .publish k => program ++ " " ++ k.word

/-- How to call it. -/
def usage (program : String) (c : Command) : String :=
  "Usage: " ++ c.path program ++ " [OPTIONS] " ++
    match c with
    | .tool => "COMMAND [ARGS]..."
    | .publish k => argument k

/-- The whole page. -/
def help (program : String) (c : Command) : String :=
  let commands := c.commandEntries
  "\n".intercalate ([c.usage program, "", "  " ++ c.purpose] ++
    sectionLines "Options" c.switchEntries ++
    if commands.isEmpty then [] else sectionLines "Commands" commands)

end Command

end ReleaseRefs.Cli
