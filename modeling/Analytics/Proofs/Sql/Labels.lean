import Analytics.Proofs.Sql.Spelling

/-!
The templates of bucket labels. The patterns of clocks, the shift and the zone stand between single
quotes.
-/

namespace Analytics

open Template

namespace BucketLabel

def zonedTemplate (encoding : TimestampEncoding) (zone : String) (column : Template) : Template :=
  match encoding with
  | .timestamp =>
    .text "(to_timestamp(" :: (column ++ .text ") AT TIME ZONE " :: [.literal zone, .text ")"])
  | .timestampMs =>
    .text "(to_timestamp(" ::
      (column ++ .text " / 1000.0) AT TIME ZONE " :: [.literal zone, .text ")"])
  | .datetime =>
    .text "((CAST(" :: (column ++ .text " AS timestamp) AT TIME ZONE " ::
      [.literal "UTC", .text ") AT TIME ZONE ", .literal zone, .text ")"])
  | .date => column.enclose "CAST(" " AS date)"

def shiftedTemplate (encoding : TimestampEncoding) (shift : Int) (column : Template) : Template :=
  match encoding with
  | .timestamp =>
    .text "datetime(" :: (column ++ .text ", " ::
      [.literal "unixepoch", .text ", ", .literal (shiftText shift), .text ")"])
  | .timestampMs =>
    .text "datetime(" :: (column ++ .text " / 1000, " ::
      [.literal "unixepoch", .text ", ", .literal (shiftText shift), .text ")"])
  | .datetime =>
    .text "datetime(" :: (column ++ .text ", " :: [.literal (shiftText shift), .text ")"])
  | .date => column.enclose "date(" ")"

def template (d : Dialect) (l : BucketLabel Column) : Template :=
  match d with
  | .postgres =>
    .text "to_char(" :: (zonedTemplate l.encoding l.zone l.column.template ++
      .text ", " :: [.literal (toCharPattern l.unit), .text ")"])
  | .sqlite =>
    .text "strftime(" :: .literal (strftimePattern l.unit) :: .text ", " ::
      (shiftedTemplate l.encoding l.shift l.column.template ++ .text ")" :: [])

theorem fragment_zonedTemplate (encoding : TimestampEncoding) (zone : String) (c : Column) :
    (zonedTemplate encoding zone c.template).fragment
      = Fragment.raw (zonedClock encoding zone c.render) := by
  have opened : ") AT TIME ZONE '" = ") AT TIME ZONE " ++ "'" := rfl
  have openedMillis : " / 1000.0) AT TIME ZONE '" = " / 1000.0) AT TIME ZONE " ++ "'" := rfl
  have openedUtc : " AS timestamp) AT TIME ZONE 'UTC') AT TIME ZONE '"
      = " AS timestamp) AT TIME ZONE " ++ ("'" ++ "UTC" ++ "'" ++ ") AT TIME ZONE " ++ "'") := rfl
  have closed : "')" = "'" ++ ")" := rfl
  unfold zonedTemplate zonedClock
  cases encoding <;>
    simp only [opened, openedMillis, openedUtc, closed,
      fragment_text_cons, fragment_literal_cons, fragment_append, fragment_enclose, fragment_nil,
      c.fragment_template, Fragment.enclose_eq, Fragment.raw_append, Fragment.append_assoc,
      Fragment.append_empty]

theorem fragment_shiftedTemplate (encoding : TimestampEncoding) (shift : Int) (c : Column) :
    (shiftedTemplate encoding shift c.template).fragment
      = Fragment.raw (shiftedClock encoding shift c.render) := by
  have opened : ", '" = ", " ++ "'" := rfl
  have openedSeconds : ", 'unixepoch', '" = ", " ++ ("'" ++ "unixepoch" ++ "'") ++ ", " ++ "'" := rfl
  have openedMillis : " / 1000, 'unixepoch', '"
      = " / 1000, " ++ ("'" ++ "unixepoch" ++ "'") ++ ", " ++ "'" := rfl
  have closed : "')" = "'" ++ ")" := rfl
  unfold shiftedTemplate shiftedClock
  cases encoding <;>
    simp only [opened, openedSeconds, openedMillis, closed,
      fragment_text_cons, fragment_literal_cons, fragment_append, fragment_enclose, fragment_nil,
      c.fragment_template, Fragment.enclose_eq, Fragment.raw_append, Fragment.append_assoc,
      Fragment.append_empty]

theorem fragment_template (d : Dialect) (l : BucketLabel Column) :
    (l.template d).fragment = Fragment.raw (l.render Column.render d) := by
  have opened : ", '" = ", " ++ "'" := rfl
  have openedPattern : "strftime('" = "strftime(" ++ "'" := rfl
  have closedPattern : "', " = "'" ++ ", " := rfl
  have closed : "')" = "'" ++ ")" := rfl
  unfold template render
  cases d <;>
    simp only [opened, openedPattern, closedPattern, closed, fragment_text_cons,
      fragment_literal_cons, fragment_append, fragment_nil, fragment_zonedTemplate,
      fragment_shiftedTemplate, Fragment.raw_append, Fragment.append_assoc, Fragment.append_empty]

theorem shiftText_quiet (shift : Int) : IsQuiet (shiftText shift) := by
  have digits (mark : Char) (noDigit : Digits.isDigit mark = false) :
      mark ∉ (toString shift.natAbs).toList := by
    have written : toString shift.natAbs = String.ofList (Nat.toDigits 10 shift.natAbs) := rfl
    rw [written, String.toList_ofList]
    exact toDigits_free shift.natAbs noDigit
  constructor <;>
    simp only [shiftText, String.toList_append, List.mem_append, not_or]
  · refine ⟨⟨?_, digits _ rfl⟩, by decide⟩
    split <;> decide
  · refine ⟨⟨?_, digits _ rfl⟩, by decide⟩
    split <;> decide

theorem patterns_quiet (unit : TimeUnit) :
    IsQuiet (strftimePattern unit) ∧ IsQuiet (toCharPattern unit) := by
  cases unit <;> exact ⟨⟨by decide, by decide⟩, ⟨by decide, by decide⟩⟩

theorem zonedTemplate_sound {encoding : TimestampEncoding} {zone : String} (quiet : IsQuiet zone)
    (c : Column) : (zonedTemplate encoding zone c.template).IsSound := by
  have named : IsSound [.literal zone, .text ")"] := sound_quoted quiet (sound_text rfl)
  cases encoding with
  | timestamp => exact sound_words rfl (sound_behind c.template_sound rfl rfl named)
  | timestampMs => exact sound_words rfl (sound_behind c.template_sound rfl rfl named)
  | datetime =>
    have utc : IsQuiet "UTC" := ⟨by decide, by decide⟩
    have zoned := sound_quoted utc (sound_words (s := ") AT TIME ZONE ") rfl named)
    exact sound_words rfl (sound_behind c.template_sound rfl rfl zoned)
  | date => exact sound_enclose rfl rfl rfl c.template_sound

theorem shiftedTemplate_sound (encoding : TimestampEncoding) (shift : Int) (c : Column) :
    (shiftedTemplate encoding shift c.template).IsSound := by
  have shifted : IsSound [.literal (shiftText shift), .text ")"] :=
    sound_quoted (shiftText_quiet shift) (sound_text rfl)
  have epoch : IsQuiet "unixepoch" := ⟨by decide, by decide⟩
  have fromEpoch := sound_quoted epoch (sound_words (s := ", ") rfl shifted)
  cases encoding with
  | timestamp => exact sound_words rfl (sound_behind c.template_sound rfl rfl fromEpoch)
  | timestampMs => exact sound_words rfl (sound_behind c.template_sound rfl rfl fromEpoch)
  | datetime => exact sound_words rfl (sound_behind c.template_sound rfl rfl shifted)
  | date => exact sound_enclose rfl rfl rfl c.template_sound

theorem template_sound {l : BucketLabel Column} (d : Dialect) (quiet : IsQuiet l.zone) :
    (l.template d).IsSound := by
  cases d with
  | postgres =>
    have pattern := sound_quoted (patterns_quiet l.unit).2 (sound_text (s := ")") rfl)
    have clock : (zonedTemplate l.encoding l.zone l.column.template).IsSound :=
      zonedTemplate_sound quiet l.column
    exact sound_words rfl (sound_behind clock rfl rfl pattern)
  | sqlite =>
    have clock := shiftedTemplate_sound l.encoding l.shift l.column
    have closed := sound_behind (s := ")") clock rfl rfl sound_nil
    exact sound_words rfl (sound_quoted (patterns_quiet l.unit).1 (sound_words rfl closed))

end BucketLabel

end Analytics
