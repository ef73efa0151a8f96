import NoteTemplate.Proofs.LegalJson
import NoteTemplate.Proofs.WrittenMoments
import NoteTemplate.Value.Json

/-!
# Values that survive as JSON

A value lasts when its doubles are finite and none of its texts is a timestamp. These are the values
that are read again as they are from the JSON that is written for them
(`Value.ofJson_jsonWith_eq_iff`), and whatever is read from JSON is one of them
(`Value.lasts_ofJson`), in particular from the JSON of a text (`Value.ofJson_toJson_of_parse`). Both
ways of writing a moment are read alike, so it does not matter which of them a value was written in
(`Value.ofJson_toJson_settled`).
-/

namespace NoteTemplate

open Calendar (Moment)

namespace Value

/-! ## Values that last -/

mutual

/-- Whether the doubles of a value are finite and none of its texts is a timestamp. -/
def lasts : Value → Bool
  | .null | .bool _ | .int _ | .moment _ => true
  | .float value => value.isFinite
  | .string text => (Moment.ofText? text).isNone
  | .list items => lastItems items
  | .map fields => lastFields fields

/-- Whether the items of a list last. -/
def lastItems : List Value → Bool
  | [] => true
  | item :: rest => lasts item && lastItems rest

/-- Whether the fields of a mapping last. -/
def lastFields : List (String × Value) → Bool
  | [] => true
  | (_, item) :: rest => lasts item && lastFields rest

end

/-- An integer that is read lasts, if it fits sixty-four bits. -/
theorem lasts_ofInteger {number : Int} (range : number.natAbs < Number.twoTo 64) :
    (ofInteger number).lasts = true := by
  unfold ofInteger
  split
  · rfl
  · exact Number.isFinite_ofInt range

/-- A text that is read lasts. -/
theorem lasts_ofText (text : String) : (ofText text).lasts = true := by
  unfold ofText
  split
  · rfl
  · rename_i noTime
    rw [lasts, noTime]
    rfl

mutual

/-- What is read from legal JSON lasts. -/
theorem lasts_ofJson : ∀ json : Json, json.isLegal = true → (ofJson json).lasts = true
  | .null, _ => rfl
  | .bool _, _ => rfl
  | .string text, _ => lasts_ofText text
  | .int value, legal => by
    have limits : Number.twoTo 64 = 18446744073709551616 ∧
        Number.twoTo 63 = 9223372036854775808 := ⟨rfl, rfl⟩
    have range := of_decide_eq_true legal
    exact lasts_ofInteger (by omega)
  | .float _, legal => legal
  | .array items, legal => lasts_ofJsonItems items legal
  | .object fields, legal => lasts_ofJsonFields fields legal

/-- The items that are read from legal JSON last. -/
theorem lasts_ofJsonItems : ∀ items : List Json, Json.areLegalItems items = true →
    lastItems (ofJsonItems items) = true
  | [], _ => rfl
  | item :: rest, legal => by
    obtain ⟨first, others⟩ := Bool.and_eq_true_iff.1 legal
    exact Bool.and_eq_true_iff.2 ⟨lasts_ofJson item first, lasts_ofJsonItems rest others⟩

/-- The fields that are read from legal JSON last. -/
theorem lasts_ofJsonFields : ∀ fields : List (String × Json), Json.areLegalFields fields = true →
    lastFields (ofJsonFields fields) = true
  | [], _ => rfl
  | (_, item) :: rest, legal => by
    obtain ⟨first, others⟩ := Bool.and_eq_true_iff.1 legal
    exact Bool.and_eq_true_iff.2 ⟨lasts_ofJson item first, lasts_ofJsonFields rest others⟩

end

/-! ## Writing a value and reading it again -/

section Writing

variable {write other : Moment → String}

/-- A double is read again if it is finite. -/
theorem ofJson_ofFloat_eq_iff (value : Float) :
    ofJson (Json.ofFloat value) = .float value ↔ value.isFinite = true := by
  unfold Json.ofFloat
  split
  · rename_i finite
    exact ⟨fun _ => finite, fun _ => rfl⟩
  · rename_i infinite
    exact ⟨nofun, fun finite => absurd finite infinite⟩

/-- A text is read again if it is no timestamp. -/
theorem ofText_eq_string_iff (text : String) :
    ofText text = .string text ↔ (Moment.ofText? text).isNone = true := by
  unfold ofText
  cases Moment.ofText? text <;> simp

/-- An integer is read again. -/
theorem ofInteger_toInt (value : Int64) : ofInteger value.toInt = .int value := by
  rw [ofInteger, if_pos ⟨value.minValue_le_toInt, value.toInt_le⟩, Int64.ofInt_toInt]

mutual

/-- The values that are read again as they were written are those that last. -/
theorem ofJson_jsonWith_eq_iff (read : ∀ time, Moment.ofText? (write time) = some time) :
    ∀ value : Value, ofJson (value.jsonWith write) = value ↔ value.lasts = true
  | .null => ⟨fun _ => rfl, fun _ => rfl⟩
  | .bool _ => ⟨fun _ => rfl, fun _ => rfl⟩
  | .int value => ⟨fun _ => rfl, fun _ => ofInteger_toInt value⟩
  | .float value => ofJson_ofFloat_eq_iff value
  | .string text => ofText_eq_string_iff text
  | .moment time => by
    refine ⟨fun _ => rfl, fun _ => ?_⟩
    rw [jsonWith, ofJson, ofText, read]
  | .list items => by
    rw [jsonWith, ofJson, list.injEq, ofJsonItems_jsonItemsWith_eq_iff read items, lasts]
  | .map fields => by
    rw [jsonWith, ofJson, map.injEq, ofJsonFields_jsonFieldsWith_eq_iff read fields, lasts]

/-- The items that are read again as they were written are those that last. -/
theorem ofJsonItems_jsonItemsWith_eq_iff (read : ∀ time, Moment.ofText? (write time) = some time) :
    ∀ items : List Value, ofJsonItems (jsonItemsWith write items) = items ↔ lastItems items = true
  | [] => ⟨fun _ => rfl, fun _ => rfl⟩
  | item :: rest => by
    rw [jsonItemsWith, ofJsonItems, List.cons.injEq, ofJson_jsonWith_eq_iff read item,
      ofJsonItems_jsonItemsWith_eq_iff read rest, lastItems, Bool.and_eq_true]

/-- The fields that are read again as they were written are those that last. -/
theorem ofJsonFields_jsonFieldsWith_eq_iff
    (read : ∀ time, Moment.ofText? (write time) = some time) :
    ∀ fields : List (String × Value),
      ofJsonFields (jsonFieldsWith write fields) = fields ↔ lastFields fields = true
  | [] => ⟨fun _ => rfl, fun _ => rfl⟩
  | (name, item) :: rest => by
    rw [jsonFieldsWith, ofJsonFields, List.cons.injEq, Prod.mk.injEq,
      ofJson_jsonWith_eq_iff read item, ofJsonFields_jsonFieldsWith_eq_iff read rest, lastFields,
      Bool.and_eq_true]
    exact ⟨fun both => ⟨both.1.2, both.2⟩, fun both => ⟨⟨rfl, both.1⟩, both.2⟩⟩

end

mutual

/-- Two ways to write moments that are read alike are read alike in every value. -/
theorem ofJson_jsonWith_congr
    (alike : ∀ time, ofText (write time) = ofText (other time)) :
    ∀ value : Value, ofJson (value.jsonWith write) = ofJson (value.jsonWith other)
  | .null | .bool _ | .int _ | .float _ | .string _ => rfl
  | .moment time => alike time
  | .list items => by
    rw [jsonWith, jsonWith, ofJson, ofJson, ofJsonItems_jsonItemsWith_congr alike items]
  | .map fields => by
    rw [jsonWith, jsonWith, ofJson, ofJson, ofJsonFields_jsonFieldsWith_congr alike fields]

/-- Two ways to write moments that are read alike are read alike in every list. -/
theorem ofJsonItems_jsonItemsWith_congr
    (alike : ∀ time, ofText (write time) = ofText (other time)) :
    ∀ items : List Value,
      ofJsonItems (jsonItemsWith write items) = ofJsonItems (jsonItemsWith other items)
  | [] => rfl
  | item :: rest => by
    rw [jsonItemsWith, jsonItemsWith, ofJsonItems, ofJsonItems, ofJson_jsonWith_congr alike item,
      ofJsonItems_jsonItemsWith_congr alike rest]

/-- Two ways to write moments that are read alike are read alike in every mapping. -/
theorem ofJsonFields_jsonFieldsWith_congr
    (alike : ∀ time, ofText (write time) = ofText (other time)) :
    ∀ fields : List (String × Value),
      ofJsonFields (jsonFieldsWith write fields) = ofJsonFields (jsonFieldsWith other fields)
  | [] => rfl
  | (name, item) :: rest => by
    rw [jsonFieldsWith, jsonFieldsWith, ofJsonFields, ofJsonFields,
      ofJson_jsonWith_congr alike item, ofJsonFields_jsonFieldsWith_congr alike rest]

end

mutual

/-- What is written for a value is legal JSON. -/
theorem isLegal_jsonWith (write : Moment → String) :
    ∀ value : Value, (value.jsonWith write).isLegal = true
  | .null | .bool _ | .string _ | .moment _ => rfl
  | .int value => by
    have range : Int64.minValue.toInt ≤ value.toInt ∧ value.toInt ≤ Int64.maxValue.toInt :=
      ⟨value.minValue_le_toInt, value.toInt_le⟩
    have limits : Int64.minValue.toInt = -9223372036854775808 ∧
        Int64.maxValue.toInt = 9223372036854775807 := ⟨rfl, rfl⟩
    exact Json.isLegal_int (by omega)
  | .float value => by
    rw [jsonWith, Json.ofFloat]
    split
    · assumption
    · rfl
  | .list items => areLegalItems_jsonItemsWith write items
  | .map fields => areLegalFields_jsonFieldsWith write fields

/-- What is written for the items of a list is legal JSON. -/
theorem areLegalItems_jsonItemsWith (write : Moment → String) :
    ∀ items : List Value, Json.areLegalItems (jsonItemsWith write items) = true
  | [] => rfl
  | item :: rest => Bool.and_eq_true_iff.2
    ⟨isLegal_jsonWith write item, areLegalItems_jsonItemsWith write rest⟩

/-- What is written for the fields of a mapping is legal JSON. -/
theorem areLegalFields_jsonFieldsWith (write : Moment → String) :
    ∀ fields : List (String × Value), Json.areLegalFields (jsonFieldsWith write fields) = true
  | [] => rfl
  | (_, item) :: rest => Bool.and_eq_true_iff.2
    ⟨isLegal_jsonWith write item, areLegalFields_jsonFieldsWith write rest⟩

end

end Writing

/-- What is read from legal JSON is read again as it is from what is written for it. -/
theorem ofJson_toJson_of_isLegal {json : Json} (legal : json.isLegal = true) :
    ofJson (ofJson json).toJson = ofJson json :=
  (ofJson_jsonWith_eq_iff Moment.ofText?_text (ofJson json)).2 (lasts_ofJson json legal)

/-- What is read from the JSON of a text is read again as it is from what is written for it. -/
theorem ofJson_toJson_of_parse {text : String} {json : Json} (read : Json.parse text = .ok json) :
    ofJson (ofJson json).toJson = ofJson json :=
  ofJson_toJson_of_isLegal (Json.isLegal_of_parse read)

/-- Moments that are written with a letter for Greenwich are read as those with an offset. -/
theorem ofText_letteredText (time : Moment) : ofText time.letteredText = ofText time.text := by
  rw [ofText, ofText, time.ofText?_letteredText, time.ofText?_text]

/-- What is read from JSON is read again as it is from what is written for it, with the offsets of
its moments. For every value the two ways to write its moments are read alike, and what is read of
either is from then on read again as it is. -/
theorem ofJson_toJson_settled {json : Json} (legal : json.isLegal = true) :
    ofJson (ofJson json).toJson = ofJson json ∧
      ∀ value : Value, ofJson value.letteredJson = ofJson value.toJson ∧
        ofJson (ofJson value.toJson).toJson = ofJson value.toJson := by
  refine ⟨ofJson_toJson_of_isLegal legal, fun value => ⟨?alike, ?again⟩⟩
  case alike => exact ofJson_jsonWith_congr ofText_letteredText value
  case again => exact ofJson_toJson_of_isLegal (isLegal_jsonWith Moment.text value)

/-- An integer that is read as a double, a negative zero, a timestamp of a leap second with a small
letter for Greenwich, and a text. -/
theorem ofJson_toJson_settled_mixed :
    let json : Json := .object [
      ("numbers", .array [.int 18446744073709551615, .float (-0.0), .null]),
      ("stamp", .string "2016-12-31 23:59:60.5z"), ("text", .string "2016-12-31")]
    let time : Moment :=
      ⟨⟨2016, 12, 31, by decide⟩, ⟨23, 59, 60, 500000000, by decide⟩, 0, by decide⟩
    json.isLegal = true ∧
      Fields.find? "stamp" ((ofJson json).fields?.getD []) = some (.moment time) ∧
      ofJson (ofJson json).toJson = ofJson json := by
  intro json time
  have legal : json.isLegal = true := by decide +kernel
  exact ⟨legal, by rfl, (ofJson_toJson_settled legal).1⟩

end Value

end NoteTemplate
