import Analytics.Proofs.Query.Bounds

/-!
The range of a window of times. A range begins at the start of its window without what is finer than the
column, and ends exactly at its end, or for texts at the end without its part of a second; so it is
half-open where the bounds have nothing finer, and counts a stored time twice or not at all between two
windows that meet inside of a second or a millisecond.
-/

namespace Analytics

namespace TimestampEncoding

def roundedUp (encoding : TimestampEncoding) (t : Instant) : Instant :=
  match encoding with
  | .timestamp => .ofSecond (TimeRange.secondsUp t)
  | .timestampMs => .ofMilli (TimeRange.millisUp t)
  | _ => t

def closing (encoding : TimestampEncoding) (t : Instant) : Instant :=
  match encoding with
  | .datetime => encoding.floor t
  | _ => t

/-- Whether an instant can be told to the store as a bound: milliseconds do not tell the inside of a
leap second, and texts only what the store reads. -/
def Bounds (encoding : TimestampEncoding) (t : Instant) : Prop :=
  (encoding = .timestampMs → t.nanos ≤ nanosPerSecond) ∧ encoding.Reads t

variable {encoding : TimestampEncoding} {c : Cell} {t u : Instant}

theorem floor_le_of_le (encoding : TimestampEncoding) (le : u ≤ t) : encoding.floor u ≤ t := by
  cases encoding <;> simp only [floor, Instant.le_iff] at * <;> omega

theorem closing_eq (own : encoding.floor t = t) : encoding.closing t = t := by
  cases encoding with
  | datetime => exact own
  | _ => rfl

theorem told_le_iff (bounds : encoding.Bounds u) (moment : t.nanos < nanosPerSecond) :
    encoding.told u ≤ t ↔ encoding.floor u ≤ t := by
  cases encoding with
  | timestampMs =>
    have inside := bounds.1 rfl
    simp only [told, floor, Instant.ofMilli, Instant.toMillis, Instant.le_iff, nanosPerSecond] at *
    omega
  | timestamp => rfl
  | datetime => rfl
  | date => rfl

theorem Stores.lt_told_iff (stores : encoding.Stores c t) (bounds : encoding.Bounds u) :
    t < encoding.told (encoding.roundedUp u) ↔ t < encoding.closing u := by
  cases stores with
  | seconds count =>
    simp only [told, roundedUp, closing, Instant.ofSecond, Instant.lt_iff, TimeRange.secondsUp]
    split <;> omega
  | millis count =>
    have inside := bounds.1 rfl
    simp only [told, roundedUp, closing, Instant.ofMilli, Instant.toMillis, Instant.lt_iff,
      TimeRange.millisUp, nanosPerSecond] at *
    split <;> omega
  | text read => rfl

end TimestampEncoding

namespace TimeRange

variable {κ : Type} {column : κ} {w : Window} {v : RowView κ} {encoding : TimestampEncoding}
  {t : Instant}

theorem predicate_eq (time : encoding ≠ .date) : predicate column encoding w
    = halfOpen (Filter.castTo encoding (.column column))
        (Filter.castTo encoding (.bound (Filter.encodeInstant encoding w.start)))
        (Filter.castTo encoding
          (.bound (Filter.encodeInstant encoding (encoding.roundedUp w.finish)))) := by
  cases encoding with
  | timestamp => rfl
  | timestampMs =>
    simp only [TimestampEncoding.roundedUp, Filter.encodeInstant, Instant.toMillis_ofMilli]
    rfl
  | datetime => rfl
  | date => exact absurd rfl time

theorem accepts_iff (kept : (v.cell column).kept (v.affinity column) = v.cell column)
    (stores : encoding.Stores (v.cell column) t)
    (whole : encoding = .datetime → t.nanos = 0 ∧ t.utc.date.HasPlainYear)
    (begins : encoding.Bounds w.start) (ends : encoding.Bounds w.finish) :
    ((predicate column encoding w).eval v).holds = true
      ↔ encoding.floor w.start ≤ t ∧ t < encoding.closing w.finish := by
  have reads : encoding.Reads (encoding.roundedUp w.finish) := by
    rintro rfl
    exact ends.2 rfl
  have years {u : Instant} (text : encoding = .datetime) :
      t.nanos = 0 ∧ (t.utc.date.HasPlainYear ∨ u.utc.date.HasPlainYear) :=
    ⟨(whole text).1, .inl (whole text).2⟩
  rw [predicate_eq stores.ne_date, halfOpen_holds, Bool.and_eq_true,
    stores.compare_holds kept years begins.2, stores.compare_holds kept years reads]
  exact and_congr (TimestampEncoding.told_le_iff begins stores.nanos_lt) (stores.lt_told_iff ends)

end TimeRange

namespace Window

def IsExact (w : Window) (encoding : TimestampEncoding) : Prop :=
  encoding.floor w.start = w.start ∧ encoding.closing w.finish = w.finish

instance (w : Window) (encoding : TimestampEncoding) : Decidable (w.IsExact encoding) :=
  inferInstanceAs (Decidable (_ ∧ _))

/-- A range accepts the stored times from the start of its window, without what is finer than the
encoding, up to its end, which texts cut likewise. So it is half-open where the bounds are exact, and
of two windows that meet at such a bound exactly one accepts a stored time. -/
theorem range_half_open {κ : Type} (w : Window) (v : RowView κ) (column : κ)
    (encoding : TimestampEncoding) (t : Instant)
    (kept : (v.cell column).kept (v.affinity column) = v.cell column)
    (stores : encoding.Stores (v.cell column) t)
    (whole : encoding = .datetime → t.nanos = 0 ∧ t.utc.date.HasPlainYear)
    (begins : encoding.Bounds w.start) (ends : encoding.Bounds w.finish) :
    (((TimeRange.predicate column encoding w).eval v).holds = true
      ↔ encoding.floor w.start ≤ t ∧ t < encoding.closing w.finish) ∧
    (w.IsExact encoding → (((TimeRange.predicate column encoding w).eval v).holds = true
      ↔ w.start ≤ t ∧ t < w.finish)) ∧
    (∀ next : Window, next.start = w.finish → encoding.Bounds next.finish → next.IsExact encoding →
      w.start ≤ t → t < next.finish → ((TimeRange.predicate column encoding w).eval v).holds
        = !((TimeRange.predicate column encoding next).eval v).holds) := by
  have accepts := TimeRange.accepts_iff kept stores whole begins ends
  refine ⟨accepts, fun exact_ => ?_, fun next meets ends' exact_ from_ upTo => ?_⟩
  · rwa [exact_.1, exact_.2] at accepts
  · have accepts' := TimeRange.accepts_iff (w := next) kept stores whole (meets ▸ ends) ends'
    rw [exact_.1, exact_.2, meets] at accepts'
    have ended : encoding.closing w.finish = w.finish :=
      TimestampEncoding.closing_eq (meets ▸ exact_.1)
    rw [ended] at accepts
    have begun := encoding.floor_le_of_le from_
    have parts : ¬ t < w.finish ↔ w.finish ≤ t := by
      rw [Instant.lt_iff, Instant.le_iff]
      omega
    rw [Bool.eq_not, Ne, Bool.eq_iff_iff, accepts, accepts', ← parts]
    simp only [begun, upTo, true_and, and_true]
    exact iff_not_self

def sampleBefore : Window := ⟨⟨-2, 500000000⟩, ⟨-1, 750000000⟩, .minute, .utc, by decide⟩

def sampleBehind : Window := ⟨⟨-1, 750000000⟩, ⟨1, 1⟩, .minute, .utc, by decide⟩

theorem range_half_open_sample :
    ((TimeRange.predicate "created_at" .timestampMs sampleBefore).eval
        (BucketLabel.sampleMillis (-250))).holds
      = !((TimeRange.predicate "created_at" .timestampMs sampleBehind).eval
        (BucketLabel.sampleMillis (-250))).holds ∧
    ((TimeRange.predicate "created_at" .datetime BucketLabel.sampleTurn).eval
        BucketLabel.sampleText).holds = true := by
  constructor
  · exact (range_half_open sampleBefore (BucketLabel.sampleMillis (-250)) "created_at" .timestampMs
      ⟨-1, 750000000⟩ (by decide) (.millis (-250)) nofun ⟨fun _ => by decide, nofun⟩
      ⟨fun _ => by decide, nofun⟩).2.2 sampleBehind rfl ⟨fun _ => by decide, nofun⟩ (by decide)
      (by decide) (by decide)
  · have year : (⟨59, 0⟩ : Instant).utc.date.HasPlainYear := by decide +kernel
    exact ((range_half_open BucketLabel.sampleTurn BucketLabel.sampleText "created_at" .datetime
      ⟨59, 0⟩ rfl (.dateTime year (WallTime.isPlain_whole 59)) (fun _ => ⟨rfl, year⟩)
      ⟨nofun, fun _ => by decide⟩ ⟨nofun, fun _ => by decide⟩).2.1 (by decide)).mpr (by decide)

/-- A range that begins in the middle of a second accepts a row of its start. -/
theorem range_accepts_early : ¬ ∀ (w : Window) (v : RowView String) (column : String)
    (encoding : TimestampEncoding) (t : Instant),
      (v.cell column).kept (v.affinity column) = v.cell column →
      encoding.Stores (v.cell column) t →
      (encoding = .datetime → t.nanos = 0 ∧ t.utc.date.HasPlainYear) →
      (((TimeRange.predicate column encoding w).eval v).holds = true
        ↔ w.start ≤ t ∧ t < w.finish) := by
  intro halfOpen
  have early := halfOpen ⟨⟨0, 500000000⟩, ⟨60, 0⟩, .minute, .utc, by decide⟩
    (BucketLabel.sampleMillis 0) "created_at" .timestamp ⟨0, 0⟩ (by decide) (.seconds 0) nofun
  exact absurd (early.mp (by decide +kernel)).1 (by decide)

end Window

end Analytics
