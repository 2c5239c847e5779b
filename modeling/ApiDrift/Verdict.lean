import ApiDrift.Decimal.Shortest
import ApiDrift.Output.Page
import ApiDrift.Snapshot.Encoding

/-!
# Verdicts

A verdict is what a user is told about two snapshots: the severity of the changes, the severity of the release that is made of them, the versions before and after it if there are any, and the changes themselves.
-/

namespace ApiDrift

structure Verdict where
  old : String
  new : String
  bump : Bump
  releaseBump : Bump
  previousVersion : Option String
  nextVersion : Option String
  changes : List ChangeRecord
  summary : Summary
  summaryText : String
  /-- In milliseconds. -/
  duration : Decimal.Binary

namespace Verdict

/-! ### As JSON -/

def encode (verdict : Verdict) : Json :=
  .record <|
    [("old", .text verdict.old), ("new", .text verdict.new), ("bump", verdict.bump.encode),
      ("release_bump", verdict.releaseBump.encode)] ++
      optionalMember "previous_version" (verdict.previousVersion.map .text) ++
      optionalMember "next_version" (verdict.nextVersion.map .text) ++
      [changesMember verdict.changes, ("summary", verdict.summary.encode),
        ("summary_text", .text verdict.summaryText), durationMember verdict.duration.numeral]

/-! ### As a table -/

open Page

def severityStyle : Bump → Style
  | .major => .boldRed
  | .minor => .yellow
  | .patch => .green
  | .none => .dimmed

def severity (bump : Bump) : Piece := .padded bump.word 8 (severityStyle bump)

def heading (verdict : Verdict) : Page :=
  [⟨"COMPARE:", .boldCyan⟩, space, ⟨verdict.old, .yellow⟩, plain " -> ", ⟨verdict.new, .green⟩,
    newLine]

def count (verdict : Verdict) : Page :=
  [plain "Found ", ⟨toString verdict.changes.length, .cyan⟩,
    plain (" changes (" ++ verdict.summaryText ++ ") in " ++ verdict.duration.oneDecimal.text ++
      "ms\n\n")]

def row (record : ChangeRecord) : Page :=
  [severity record.severity, space,
    .padded (if record.path.isEmpty then "(root)" else record.path) 40 .plain,
    plain (" " ++ record.description ++ "\n")]

def rule : Piece := plain (String.ofList (List.replicate 80 '-') ++ "\n")

def rows (verdict : Verdict) : Page :=
  if verdict.changes.isEmpty then [⟨"No API changes detected.", .dimmed⟩, plain "\n\n"]
  else
    [.padded "SEVERITY" 8 .bold, space, .padded "ENTITY" 40 .bold, space, ⟨"CHANGE", .bold⟩,
      newLine, rule] ++ verdict.changes.flatMap row ++ [newLine]

def conclusion (verdict : Verdict) : Page :=
  [⟨"BUMP:", .bold⟩, space, severity verdict.bump] ++
    if verdict.releaseBump = verdict.bump then []
    else [space, ⟨"(released as " ++ verdict.releaseBump.word ++ ")", .dimmed⟩]

def versions (verdict : Verdict) : Page :=
  match verdict.previousVersion, verdict.nextVersion with
  | some previous, some next =>
    [newLine, ⟨"VERSION:", .bold⟩, space, ⟨previous, .yellow⟩, plain " -> ", ⟨next, .boldGreen⟩]
  | _, _ => []

def page (verdict : Verdict) : Page :=
  verdict.heading ++ verdict.count ++ verdict.rows ++ verdict.conclusion ++ verdict.versions

end Verdict

end ApiDrift
