import NoteTemplate.Context

/-!
# Messages

A note is usually made of a message, to which an analysis can have been added. Both
are offered to templates under fixed names, together with the time at which the note
is made; further bindings come last and can replace any of these.
-/

namespace NoteTemplate

open Calendar (Moment)

/-- A message that a note is made of. -/
structure Message where
  /-- A number that identifies it, of sixty-four bits. -/
  id : Option Nat := none
  /-- The text. -/
  content : String := ""
  /-- The name that the author is shown by. -/
  authorName : String := ""
  /-- The name that the author is known by. -/
  authorUsername : String := ""
  /-- The channel that it was sent to. -/
  channelName : String := ""
  /-- What is attached to it. -/
  attachments : List String := []
  /-- When it was sent. -/
  createdAt : Option Moment := none

/-- What an analysis of a message found. -/
structure Analysis where
  /-- A summary. -/
  summary : String := ""
  /-- The main points. -/
  keyPoints : List String := []
  /-- The tags. -/
  tags : List String := []
  /-- The category. -/
  category : String := ""
  /-- How certain the category is. -/
  confidence : Float := 0
  /-- Why the category was chosen. -/
  reasoning : String := ""
  /-- How many milliseconds it took. -/
  processingTime : Nat := 0

/-- A list of texts. -/
def Value.ofTexts (texts : List String) : Value := .list (texts.map .string)

/-- The names for the time at which a note is made. -/
def timeBindings (now : Moment) : List (String × Value) :=
  [("current_date", .moment now),
    ("current_time", .moment now),
    ("date_iso", .string (Calendar.format Calendar.stampItems now)),
    ("date_ymd", .string (Calendar.format Calendar.dayItems now)),
    ("time_hm", .string (Calendar.format Calendar.minuteItems now))]

/-- The names for a message. -/
def Message.bindings (message : Message) : List (String × Value) :=
  [("message_id", Value.ofOption (message.id.map Value.ofNat)),
    ("content", .string message.content),
    ("content_length", Value.ofNat message.content.length),
    ("author_name", .string message.authorName),
    ("author_username", .string message.authorUsername),
    ("channel_name", .string message.channelName),
    ("attachments", Value.ofTexts message.attachments),
    ("attachment_count", Value.ofNat message.attachments.length),
    ("has_attachments", .bool !message.attachments.isEmpty),
    ("message_created_at", Value.ofOption (message.createdAt.map .moment))]

/-- The names for an analysis. -/
def Analysis.bindings (analysis : Analysis) : List (String × Value) :=
  [("ai_summary", .string analysis.summary),
    ("ai_key_points", Value.ofTexts analysis.keyPoints),
    ("ai_tags", Value.ofTexts analysis.tags),
    ("ai_category", .string analysis.category),
    ("ai_confidence", .float analysis.confidence),
    ("ai_reasoning", .string analysis.reasoning),
    ("processing_time", Value.ofNat analysis.processingTime)]

/-- The context for the note of a message. Without an analysis its names are bound to
what an analysis without findings would have. -/
def noteContext (now : Moment) (message : Message) (analysis : Option Analysis)
    (extras : Context) : Context :=
  let bindings := timeBindings now ++ message.bindings ++
    ("ai_processed", .bool analysis.isSome) :: (analysis.getD {}).bindings
  (Context.ofList bindings).extend extras

end NoteTemplate
