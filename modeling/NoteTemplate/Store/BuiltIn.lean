import NoteTemplate.Store.Shelf
import NoteTemplate.Template.Token

/-!
# Built-in templates

The templates that a new vault starts with. Installing them leaves every template alone
that is there already.
-/

namespace NoteTemplate

namespace BuiltIn

open Template (tagText)

/-- A text of lines, each of which is ended. -/
def ofLines (lines : List String) : String := String.join (lines.map (· ++ "\n"))

/-- The layout that other notes fill in. -/
def baseNote : String :=
  ofLines [
    "---",
    "type: " ++ tagText "block \"type\"" ++ "note" ++ tagText "/block",
    "created: " ++ tagText "date_iso",
    "tags:",
    "  - \"" ++ tagText "block \"tag\"" ++ "note" ++ tagText "/block" ++ "\"" ++
      tagText "#each ai_tags",
    "  - \"" ++ tagText "@item" ++ "\"" ++ tagText "/each",
    "ai_processed: " ++ tagText "ai_processed",
    tagText "block \"meta\"" ++ tagText "/block",
    "---",
    "",
    "# " ++ tagText "block \"title\"" ++ tagText "#if ai_summary" ++
      tagText "truncate(ai_summary, 50)" ++ tagText "else" ++ "Untitled note" ++ tagText "/if" ++
      tagText "/block",
    "",
    tagText "block \"body\"" ++ tagText "#if content",
    tagText "content",
    tagText "else",
    "Write the note here.",
    tagText "/if" ++ tagText "/block",
    "",
    tagText "block \"footer\"" ++ "Captured from #" ++ tagText "channel_name" ++ " by " ++
      tagText "default(author_name, \"unknown\")" ++ " on " ++
      tagText "date_format(current_date, \"%Y-%m-%d %H:%M\")" ++ tagText "/block"]

/-- A note for one day. -/
def dailyNote : String :=
  ofLines [
    "---",
    "type: daily",
    "date: " ++ tagText "date_ymd",
    "tags:",
    "  - \"daily\"",
    "  - \"" ++ tagText "date_format(current_date, \"%Y-%m\")" ++ "\"",
    "---",
    "",
    "# " ++ tagText "date_format(current_date, \"%A, %B %d %Y\")" ++ " - Daily Note",
    "",
    "## Activity Log",
    "",
    tagText "#if ai_processed",
    "### Processed message",
    "- **Summary**: " ++ tagText "ai_summary",
    "- **Category**: " ++ tagText "ai_category",
    "- **Tags**: " ++ tagText "tag_list(ai_tags)",
    tagText "/if",
    "",
    "## Daily Tasks",
    tagText "#each ai_key_points",
    "- [ ] " ++ tagText "@item" ++ tagText "/each",
    "",
    "## Stats",
    "",
    "- **Processing time**: " ++ tagText "number_format(processing_time)" ++ "ms",
    "- **Messages**: 1",
    "- **AI processing**: " ++ tagText "#if ai_processed" ++ "done" ++ tagText "else" ++
      "pending" ++ tagText "/if",
    "",
    "## Reflection",
    "",
    "Write today's reflection here."]

/-- A note for an idea. -/
def ideaNote : String :=
  ofLines [
    "---",
    "type: idea",
    "created: " ++ tagText "date_iso",
    "tags:",
    "  - \"idea\"" ++ tagText "#if ai_category",
    "  - \"" ++ tagText "ai_category" ++ "\"" ++ tagText "/if" ++ tagText "#each ai_tags",
    "  - \"" ++ tagText "@item" ++ "\"" ++ tagText "/each",
    "ai_processed: " ++ tagText "ai_processed",
    tagText "#if ai_processed",
    "ai_confidence: " ++ tagText "ai_confidence",
    tagText "/if",
    "---",
    "",
    "# " ++ tagText "#if ai_summary" ++ tagText "truncate(ai_summary, 50)" ++ tagText "else" ++
      "New idea" ++ tagText "/if",
    "",
    "## Overview",
    "",
    tagText "#if content",
    tagText "content",
    tagText "else",
    "Describe the idea here.",
    tagText "/if",
    "",
    tagText "#if ai_processed",
    "## AI Analysis",
    "",
    "**Summary**: " ++ tagText "ai_summary",
    "",
    tagText "#if ai_key_points",
    "### Key points",
    tagText "#each ai_key_points",
    "- " ++ tagText "@item" ++ tagText "/each",
    tagText "/if",
    "",
    "**Category**: " ++ tagText "ai_category" ++ " (confidence: " ++
      tagText "number_format(ai_confidence, \"percent\")" ++ ")",
    "",
    tagText "#if ai_reasoning",
    "**Reasoning**: " ++ tagText "ai_reasoning",
    tagText "/if",
    tagText "/if",
    "",
    "## Next Actions",
    "",
    "- [ ] Flesh out the idea",
    "- [ ] Check feasibility",
    "- [ ] Collect related material",
    "",
    "## Tags",
    "",
    tagText "tag_list(ai_tags)",
    "",
    "## Created",
    "",
    tagText "date_format(current_date, \"%Y-%m-%d %H:%M\")"]

/-- A note for a meeting. -/
def meetingNote : String :=
  ofLines [
    "---",
    "type: meeting",
    "date: " ++ tagText "date_ymd",
    "tags:",
    "  - \"meeting\"" ++ tagText "#if ai_category",
    "  - \"" ++ tagText "ai_category" ++ "\"" ++ tagText "/if",
    "ai_processed: " ++ tagText "ai_processed",
    "participants: []",
    "---",
    "",
    "# Meeting Notes - " ++ tagText "date_format(current_date, \"%Y-%m-%d\")",
    "",
    "## Details",
    "",
    "- **When**: " ++ tagText "date_format(current_date, \"%Y-%m-%d %H:%M\")",
    "- **Participants**:",
    "- **Location**:",
    "",
    "## Agenda",
    "",
    tagText "#if ai_key_points" ++ tagText "#each ai_key_points",
    "1. " ++ tagText "@item" ++ tagText "/each",
    tagText "else",
    "1. Agenda item",
    tagText "/if",
    "",
    "## Discussion",
    "",
    tagText "#if content",
    tagText "content",
    tagText "else",
    "Record the discussion here.",
    tagText "/if",
    "",
    tagText "#if ai_processed",
    "## AI Summary",
    "",
    tagText "ai_summary",
    "",
    "**Category**: " ++ tagText "ai_category" ++ " (" ++
      tagText "number_format(ai_confidence, \"percent\")" ++ ")",
    tagText "/if",
    "",
    "## Action Items",
    "",
    "- [ ] Follow up"]

/-- A note for a task, which fills in the layout. -/
def taskNote : String :=
  ofLines [
    tagText "extends \"base_note\"",
    tagText "block \"type\"" ++ "task" ++ tagText "/block",
    tagText "block \"tag\"" ++ "task" ++ tagText "/block",
    tagText "block \"meta\"" ++ "status: todo",
    "due: \"\"" ++ tagText "/block",
    tagText "block \"title\"" ++ "Task: " ++ tagText "#if ai_summary" ++
      tagText "truncate(ai_summary, 60)" ++ tagText "else" ++ tagText "truncate(content, 60)" ++
      tagText "/if" ++ tagText "/block",
    tagText "block \"body\"" ++ "## Description",
    "",
    tagText "default(content, \"Describe the task here.\")",
    tagText "#if ai_key_points",
    "## Steps",
    tagText "#each ai_key_points",
    "- [ ] " ++ tagText "@item" ++ tagText "/each",
    tagText "/if",
    "",
    "## Status",
    "",
    "- [ ] Not started" ++ tagText "/block"]

/-- The built-in templates by name. -/
def templates : List (String × String) :=
  [("base_note", baseNote), ("daily_note", dailyNote), ("idea_note", ideaNote),
    ("meeting_note", meetingNote), ("task_note", taskNote)]

section Install

variable {m : Type → Type} [Monad m] [TemplateStore m]

/-- Stores a template unless there is one of its name, and tells whether it did. -/
def installOne (name text : String) : m (Except Failure Bool) := do
  match (← TemplateStore.shelf).contains name with
  | .error failure => return .error failure
  | .ok true => return .ok false
  | .ok false => return (← TemplateStore.write name text).map fun () => true

/-- Stores templates one after another up to the first failure, and tells the names of
those that were not there before. -/
def installAll : List (String × String) → m (Except Failure (List String))
  | [] => return .ok []
  | (name, text) :: rest => do
    match ← installOne name text with
    | .error failure => return .error failure
    | .ok isNew =>
      return (← installAll rest).map fun names => if isNew then name :: names else names

/-- Stores the built-in templates that are missing. -/
def install : m (Except Failure (List String)) := installAll templates

end Install

end BuiltIn

end NoteTemplate
