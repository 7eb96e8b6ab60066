import AccessLog.Journal.Record
import AccessLog.Proofs.Json.Texts

/-!
The lines that a machine reads. Whatever a record holds, its line is one line of plain characters,
and reading the line gives the texts of the record under their own names and nothing else.
-/
namespace AccessLog.Record

open Text (WideText wide joined)
open Json (textObject readMember)

theorem render_machine {r : Record} {now : ZonedTime} {utc : UtcTime} {message : WideText}
    (htime : now.toUtc = .ok utc)
    (hmessage : Directive.expand r.message r.arguments = .ok message) :
    r.render .machine now = .ok (wide (textObject (r.texts utc message))) := by
  rw [render, htime, hmessage]
  rfl

/-- The members of a record as its line is read. -/
theorem map_readMember_texts (r : Record) (now : UtcTime) (message : WideText) :
    (r.texts now message).map readMember =
      [(wide "timestamp", .text (wide now.recordText)), (wide "level", .text (joined r.levelName)),
        (wide "logger", .text (joined r.source)), (wide "message", .text (joined message))] ++
        r.exception.toList.map fun e => (wide "exception", .text (joined e)) := by
  simp only [texts, readMember, List.map_append, List.map_cons, List.map_nil, List.map_map,
    Function.comp_def, Text.joined_wide]

theorem read?_texts (r : Record) (now : UtcTime) (message : WideText) :
    Json.read? (textObject (r.texts now message)) =
      some (.record ([(wide "timestamp", .text (wide now.recordText)),
        (wide "level", .text (joined r.levelName)), (wide "logger", .text (joined r.source)),
        (wide "message", .text (joined message))] ++
          r.exception.toList.map fun e => (wide "exception", .text (joined e)))) := by
  have hne : r.texts now message ≠ [] := List.cons_ne_nil _ _
  rw [Json.read?_textObject hne, map_readMember_texts]

/-- The texts come back under their names, and the members are these and no others. A text is
changed only where halves of a character stand together in it: they come back as the character. -/
theorem machine_line_read_back (r : Record) (now : ZonedTime) (utc : UtcTime) (message : WideText)
    (htime : now.toUtc = .ok utc)
    (hmessage : Directive.expand r.message r.arguments = .ok message) :
    ∃ line : String, r.render .machine now = .ok (wide line) ∧
      (∀ c ∈ line.toList, 0x20 ≤ c.toNat ∧ c.toNat ≤ 0x7E) ∧
      Json.read? line =
        some (.record ([(wide "timestamp", .text (wide utc.recordText)),
          (wide "level", .text (joined r.levelName)), (wide "logger", .text (joined r.source)),
          (wide "message", .text (joined message))] ++
            r.exception.toList.map fun e => (wide "exception", .text (joined e)))) ∧
      ∀ t : WideText, joined t = t ↔ ¬Text.Paired t :=
  ⟨textObject (r.texts utc message), render_machine htime hmessage,
    fun _ hc => Json.isPlain_textObject hc, read?_texts r utc message, Text.joined_eq_self_iff⟩

/-- This looks like the end of its line and the beginning of another. -/
def forgedText : String := "\"\x7d\n\x7b\"level\": \"DEBUG\"\\ 😀"

def forged : Record :=
  { level := 20, levelName := "INFO\n", source := "chrona", message := "%s",
    arguments := [.text forgedText], exception := some "E: \x7f" }

def noon : ZonedTime := ⟨⟨2024, 3, 5⟩, 12, 0, 0, 0, 0⟩

def utcNoon : UtcTime := ⟨⟨2024, 3, 5⟩, 12, 0, 0, 0⟩

theorem toUtc_noon : noon.toUtc = .ok utcNoon := rfl

theorem recordText_utcNoon : utcNoon.recordText = "2024-03-05T12:00:00+00:00" := by decide

theorem machine_line_read_back_forged :
    ∃ line : String, forged.render .machine noon = .ok (wide line) ∧
      (∀ c ∈ line.toList, 0x20 ≤ c.toNat ∧ c.toNat ≤ 0x7E) ∧
      Json.read? line = some (.record [("timestamp", .text "2024-03-05T12:00:00+00:00"),
        ("level", .text "INFO\n"), ("logger", .text "chrona"),
        ("message", .text forgedText), ("exception", .text "E: \x7f")]) := by
  have hmessage : Directive.expand forged.message forged.arguments = .ok (wide forgedText) := by
    rfl
  obtain ⟨line, hline, hplain, hread, -⟩ := machine_line_read_back _ _ _ _ toUtc_noon hmessage
  simp only [recordText_utcNoon, forged, Text.joined_wide] at hread
  exact ⟨line, hline, hplain, hread⟩

/-- The halves of a character. -/
def halves : WideText := [.surrogate 0x3D, .surrogate 0x600]

/-- A record with the halves in all its texts. The message is given their numbers. -/
def halved : Record :=
  { level := 20, levelName := halves, source := halves, message := "%c%c",
    arguments := [.whole 0xD83D, .whole 0xDE00], exception := some halves }

/-- Each text of two code points comes back as one character. -/
theorem halves_read_back_joined :
    Directive.expand halved.message halved.arguments = .ok halves ∧ halves ≠ wide "😀" ∧
      ∃ line : String, halved.render .machine noon = .ok (wide line) ∧
        Json.read? line = some (.record [("timestamp", .text "2024-03-05T12:00:00+00:00"),
          ("level", .text "😀"), ("logger", .text "😀"), ("message", .text "😀"),
          ("exception", .text "😀")]) := by
  have hmessage : Directive.expand halved.message halved.arguments = .ok halves := by rfl
  have hjoined : joined halves = wide "😀" := by decide +kernel
  have hread := read?_texts halved utcNoon halves
  simp only [recordText_utcNoon, halved, Option.toList_some, List.map_cons, List.map_nil,
    hjoined] at hread
  exact ⟨hmessage, by decide, _, render_machine toUtc_noon hmessage, hread⟩

end AccessLog.Record
