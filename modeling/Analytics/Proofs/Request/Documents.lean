import Analytics.Proofs.Json.Records
import Analytics.Proofs.Time.Printed
import Analytics.Request.Document

/-!
Requests survive being written. Each kind of record a request consists of is read again from what is
written for it, whatever spelling it was first read from: the parts first, then the requests.
-/

namespace Analytics

open Json (Keeps bind_read exists_members readRecord_object readText readWord readOption readList
  keeps_text keeps_word keeps_any)

theorem InsightType.keeps : Keeps read toJson := by
  rintro - (_ | _ | _) - <;> rfl

theorem ValueType.keeps : Keeps read toJson := by
  rintro - (_ | _ | _ | _) - <;> rfl

theorem MetricMath.keeps : Keeps read toJson := by
  rintro - (_ | _) - <;> rfl

theorem Direction.keeps : Keeps read toJson := by
  rintro - (_ | _) - <;> rfl

namespace Instant

variable {value : Json} {t : Instant}

theorem read_eq_ok {found : Option Instant} (done : (match found with
    | some t => Except.ok t
    | none => Except.error Json.ReadFault.unfit) = Except.ok t) : found = some t := by
  cases found with
  | none => cases done
  | some u => cases done; rfl

theorem read_kept (done : read value = .ok t) : t.Kept := by
  unfold read at done
  have found := read_eq_ok done
  split at found
  · exact TimeReading.relaxed_kept found
  · obtain ⟨millis, -, found⟩ := Option.bind_eq_some_iff.mp found
    exact ofMillis_kept found

theorem keeps : Keeps read toJson := by
  intro value t done
  have back := TimeReading.relaxed_rfc3339 (read_kept done)
  simp only [read, toJson, back]

end Instant

theorem RequestedFilter.keeps : Keeps read toJson := by
  intro value f done
  obtain ⟨members, done⟩ := exists_members done
  obtain ⟨name, -, done⟩ := bind_read done
  obtain ⟨type, typed, done⟩ := bind_read done
  obtain ⟨operator, -, done⟩ := bind_read done
  obtain ⟨operand, given, done⟩ := bind_read done
  cases done
  have typed := ValueType.keeps.required typed
  have given : Json.readAny operand = .ok operand := keeps_any.withDefault rfl given
  refine (readRecord_object rfl).trans ?_
  simp [readText, typed, given, pure, Except.pure]

theorem RequestedBucket.keeps : Keeps read toJson := by
  intro value b done
  obtain ⟨members, done⟩ := exists_members done
  obtain ⟨operator, -, done⟩ := bind_read done
  obtain ⟨operand, given, done⟩ := bind_read done
  cases done
  have given : Json.readAny operand = .ok operand := keeps_any.required given
  refine (readRecord_object rfl).trans ?_
  simp [readText, given, pure, Except.pure]

theorem RequestedGroup.keeps : Keeps read toJson := by
  intro value g done
  obtain ⟨members, done⟩ := exists_members done
  obtain ⟨field, -, done⟩ := bind_read done
  obtain ⟨type, typed, done⟩ := bind_read done
  obtain ⟨buckets, listed, done⟩ := bind_read done
  cases done
  have typed := ValueType.keeps.required typed
  have listed := RequestedBucket.keeps.list.withDefault rfl listed
  cases buckets with
  | nil =>
    refine (readRecord_object rfl).trans ?_
    simp [readText, typed, pure, Except.pure]
  | cons b rest =>
    rw [List.map_cons] at listed
    refine (readRecord_object rfl).trans ?_
    simp [readText, typed, listed, pure, Except.pure]

theorem RequestedMetric.keeps : Keeps read toJson := by
  intro value m done
  obtain ⟨members, done⟩ := exists_members done
  obtain ⟨name, -, done⟩ := bind_read done
  obtain ⟨math, counted, done⟩ := bind_read done
  cases done
  have counted := MetricMath.keeps.required counted
  refine (readRecord_object rfl).trans ?_
  simp [readText, counted, pure, Except.pure]

theorem RequestedSpan.keeps : Keeps read toJson := by
  intro value span done
  obtain ⟨members, done⟩ := exists_members done
  obtain ⟨start, started, done⟩ := bind_read done
  obtain ⟨finish, finished, done⟩ := bind_read done
  obtain ⟨unit, -, done⟩ := bind_read done
  obtain ⟨zone, -, done⟩ := bind_read done
  cases done
  have started := Instant.keeps.required started
  have finished := Instant.keeps.required finished
  refine (readRecord_object rfl).trans ?_
  simp [readText, started, finished, pure, Except.pure]

theorem InsightQuery.keeps : Keeps read toJson := by
  intro value q done
  obtain ⟨members, done⟩ := exists_members done
  obtain ⟨insightId, -, done⟩ := bind_read done
  obtain ⟨insightType, kind, done⟩ := bind_read done
  obtain ⟨time, spanned, done⟩ := bind_read done
  obtain ⟨metrics, counted, done⟩ := bind_read done
  obtain ⟨filters, filtered, done⟩ := bind_read done
  obtain ⟨groups, grouped, done⟩ := bind_read done
  cases done
  have kind := InsightType.keeps.required kind
  have spanned := RequestedSpan.keeps.required spanned
  have counted := RequestedMetric.keeps.list.required counted
  have filtered := RequestedFilter.keeps.list.withDefault rfl filtered
  have grouped := RequestedGroup.keeps.list.withDefault rfl grouped
  refine (readRecord_object rfl).trans ?_
  simp [readText, kind, spanned, counted, filtered, grouped, pure, Except.pure]

theorem TimeRange.keeps : Keeps read toJson := by
  intro value r done
  obtain ⟨members, done⟩ := exists_members done
  obtain ⟨start, started, done⟩ := bind_read done
  obtain ⟨finish, finished, done⟩ := bind_read done
  cases done
  have started := Instant.keeps.required started
  have finished := Instant.keeps.required finished
  refine (readRecord_object rfl).trans ?_
  simp [started, finished, pure, Except.pure]

theorem EventListRequest.keeps : Keeps read toJson := by
  intro value r done
  obtain ⟨members, done⟩ := exists_members done
  obtain ⟨insightId, -, done⟩ := bind_read done
  obtain ⟨filters, filtered, done⟩ := bind_read done
  obtain ⟨limit, limited, done⟩ := bind_read done
  obtain ⟨cursor, pointed, done⟩ := bind_read done
  obtain ⟨order, ordered, done⟩ := bind_read done
  obtain ⟨time, spanned, done⟩ := bind_read done
  cases done
  have filtered := RequestedFilter.keeps.list.withDefault rfl filtered
  have limited := (keeps_word.option fun _ => rfl).withDefault rfl limited
  have pointed := (keeps_text.option fun _ => rfl).withDefault rfl pointed
  have ordered := Direction.keeps.withDefault rfl ordered
  have spanned := (TimeRange.keeps.option fun _ => rfl).withDefault rfl spanned
  refine (readRecord_object rfl).trans ?_
  simp [readText, filtered, limited, pointed, ordered, spanned, pure, Except.pure]

/-- Requests survive being written: whatever value a request was read from, what is written for it
is read as an equal request, and what is written for that is the same value. -/
theorem requests_survive :
    (∀ value q, InsightQuery.read value = .ok q →
      InsightQuery.read q.toJson = .ok q ∧
        (InsightQuery.read q.toJson).map InsightQuery.toJson = .ok q.toJson) ∧
      ∀ value r, EventListRequest.read value = .ok r →
        EventListRequest.read r.toJson = .ok r ∧
          (EventListRequest.read r.toJson).map EventListRequest.toJson = .ok r.toJson := by
  refine ⟨fun value q done => ?_, fun value r done => ?_⟩
  · have again := InsightQuery.keeps value q done
    exact ⟨again, congrArg _ again⟩
  · have again := EventListRequest.keeps value r done
    exact ⟨again, congrArg _ again⟩

theorem exists_read {α : Type} {read : Json → Json.Read α} {value : Json}
    (accepted : (read value).toBool = true) : ∃ a, read value = .ok a := by
  cases done : read value with
  | error fault =>
    rw [done] at accepted
    cases accepted
  | ok a => exact ⟨a, rfl⟩

/-- A query as an array of its fields without groups, with another name for the type of the
insight, a span whose ends are a leap second in a year below zero and whole milliseconds, and a
filter of an unknown type without a value. -/
def spelledQuery : Json :=
  .array [.text "i", .text "longTable",
    .object [("endAt", .int (-1)), ("startAt", .text "-0044-03-15 23:59:60.5 +01:00"),
      ("unit", .text "day")],
    .array [.array [.text "login", .object [("events", .null)]]],
    .array [.object [("name", .text "plan"), ("type", .text "money"), ("operator", .text "is")]]]

/-- A request for events whose defaults are all left out but one, which is null. -/
def spelledListing : Json :=
  .object [("insightId", .text "i"), ("limit", .null),
    ("time", .array [.int 0, .text "+12026-01-01T00:00:00.000000001Z"])]

theorem requests_survive_spelled :
    (∃ q, InsightQuery.read spelledQuery = .ok q ∧ q.time.start = ⟨-63549277201, 1500000000⟩ ∧
      q.time.finish = ⟨-1, 999000000⟩ ∧ InsightQuery.read q.toJson = .ok q) ∧
      ∃ r, EventListRequest.read spelledListing = .ok r ∧ r.order = .descending ∧
        EventListRequest.read r.toJson = .ok r := by
  obtain ⟨q, done⟩ : ∃ q, InsightQuery.read spelledQuery = .ok q := exists_read (by decide +kernel)
  obtain ⟨r, listed⟩ : ∃ r, EventListRequest.read spelledListing = .ok r :=
    exists_read (by decide +kernel)
  have span : (InsightQuery.read spelledQuery).toOption.map (·.time)
      = some ⟨⟨-63549277201, 1500000000⟩, ⟨-1, 999000000⟩, "day", "UTC"⟩ := by decide +kernel
  have order : (EventListRequest.read spelledListing).toOption.map (·.order)
      = some .descending := by decide +kernel
  rw [done] at span
  rw [listed] at order
  have time : q.time = _ := Option.some.inj span
  have order : r.order = _ := Option.some.inj order
  exact ⟨⟨q, done, by rw [time], by rw [time], (requests_survive.1 _ q done).1⟩,
    r, listed, order, (requests_survive.2 _ r listed).1⟩

end Analytics
