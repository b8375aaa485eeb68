import Analytics.Proofs.Query.Bounds

/-!
Date filters as comparisons of instants. An operand is bound at the precision of its column for every
operator alike, so stored times stand to the operand without what is finer; to the operand itself only
where nothing is, or where what is finer does not matter to the operator.
-/

namespace Analytics

def FilterOperator.comparison? : FilterOperator → Option Comparison
  | .equals => some .equal
  | .notEquals => some .notEqual
  | .greaterThan => some .greater
  | .greaterThanOrEqual => some .atLeast
  | .lessThan => some .less
  | .lessThanOrEqual => some .atMost
  | _ => none

/-- Whether what is bound for an operand compares with what is stored. Only counts of seconds tell an
instant within a leap second. Texts have to be of a time that the store knows, and not both of a year
before 0, where texts are not in the order of their times. -/
def TimestampEncoding.Compares (encoding : TimestampEncoding) (stored operand : Instant) : Prop :=
  (encoding ≠ .timestamp → operand.nanos < nanosPerSecond) ∧
  (encoding = .datetime → Clock.isValid (operand.seconds * 1000) = true ∧
    (stored.utc.date.HasPlainYear ∨ operand.utc.date.HasPlainYear))

theorem TimestampEncoding.Stores.compare_floor {κ : Type} {column : κ} {v : RowView κ}
    {encoding : TimestampEncoding} {t u : Instant} (stores : encoding.Stores (v.cell column) t)
    (kept : (v.cell column).kept (v.affinity column) = v.cell column)
    (whole : encoding = .datetime → t.nanos = 0) (compares : encoding.Compares t u)
    (c : Comparison) :
    ((Predicate.compare c (Filter.castTo encoding (.column column))
      (Filter.castTo encoding (.bound (Filter.encodeInstant encoding u)))).eval v).holds = true
      ↔ c.Relates t (encoding.floor u) := by
  obtain ⟨moment, known⟩ := compares
  have reads : encoding.Reads u := by
    rintro rfl
    exact ⟨moment nofun, (known rfl).1⟩
  have cut : encoding.told u = encoding.floor u := by
    refine told_eq_floor ?_
    rintro rfl
    exact moment nofun
  rw [stores.compare_holds kept (fun text => ⟨whole text, (known text).2⟩) reads, cut]

namespace Filter

section

variable {κ : Type} {column : StoredColumn κ} {value : Json} {u : Instant}

def dateComparison (column : StoredColumn κ) (c : Comparison) (u : Instant) : Predicate κ :=
  .compare c (castTo (dateEncoding column.storage) (.column column.ref))
    (castTo (dateEncoding column.storage) (.bound (encodeInstant (dateEncoding column.storage) u)))

theorem compile_comparison {op : FilterOperator} {c : Comparison} (compares : op.comparison? = some c)
    (type : ValueType) : compile type op value column = comparison type column value c := by
  cases op <;> cases compares <;> rfl

theorem comparison_date (read : Instant.ofJson value = .ok u) (c : Comparison) :
    comparison .date column value c = .ok (dateComparison column c u) := by
  simp only [comparison, bindingFor, operand, read, Except.map]
  rfl

theorem range_date {low high : Json} {a b : Instant} (first : Instant.ofJson low = .ok a)
    (last : Instant.ofJson high = .ok b) : range .date column (.array [low, high])
      = .ok (.both (dateComparison column .atLeast a) (dateComparison column .atMost b)) := by
  simp only [range, boundsOf, comparison_date first, comparison_date last, Except.map]

end

/-- A date filter accepts a stored time if and only if it stands to the operand, without what is finer
than the column, in the relation of the operator. To the operand itself it then does where nothing is
finer, and in any case for what is after it or at most it; a range likewise depends on its lower bound
alone. -/
theorem date_filter_floors {κ : Type} (column : StoredColumn κ) (v : RowView κ) (t : Instant)
    (kept : (v.cell column.ref).kept (v.affinity column.ref) = v.cell column.ref)
    (stores : (dateEncoding column.storage).Stores (v.cell column.ref) t)
    (whole : dateEncoding column.storage = .datetime → t.nanos = 0) :
    (∀ op c value u, FilterOperator.comparison? op = some c → Instant.ofJson value = .ok u →
      (dateEncoding column.storage).Compares t u →
      ∃ p, compile .date op value column = .ok p ∧
        ((p.eval v).holds = true ↔ c.Relates t ((dateEncoding column.storage).floor u)) ∧
        ((dateEncoding column.storage).floor u = u ∨ c = .greater ∨ c = .atMost →
          ((p.eval v).holds = true ↔ c.Relates t u))) ∧
    (∀ low high a b, Instant.ofJson low = .ok a → Instant.ofJson high = .ok b →
      (dateEncoding column.storage).Compares t a → (dateEncoding column.storage).Compares t b →
      ∃ p, compile .date .between (.array [low, high]) column = .ok p ∧
        ((p.eval v).holds = true ↔ (dateEncoding column.storage).floor a ≤ t ∧ t ≤ b) ∧
        ((dateEncoding column.storage).floor a = a →
          ((p.eval v).holds = true ↔ a ≤ t ∧ t ≤ b))) := by
  generalize encoded : dateEncoding column.storage = encoding at stores whole
  -- What is stored has nothing below the precision, so only the operand is cut.
  have own : encoding.floor t = t := stores.floor_eq whole
  have holds {u : Instant} (compares : encoding.Compares t u) (c : Comparison) :
      ((dateComparison column c u).eval v).holds = true ↔ c.Relates t (encoding.floor u) := by
    rw [dateComparison, encoded]
    exact stores.compare_floor kept whole compares c
  constructor
  case left =>
    intro op c value u comparison read compares
    refine ⟨dateComparison column c u, ?_, holds compares c, fun exact_ => ?_⟩
    · rw [compile_comparison comparison, comparison_date read]
    · rw [holds compares c]
      rcases exact_ with exact_ | strict
      · rw [exact_]
      · exact TimestampEncoding.relates_floor own strict u
  case right =>
    intro low high a b first last comparesLow comparesHigh
    have accepts : (((Predicate.both (dateComparison column .atLeast a)
        (dateComparison column .atMost b)).eval v).holds = true)
          ↔ encoding.floor a ≤ t ∧ t ≤ b := by
      rw [Predicate.eval, Truth.and_holds, Bool.and_eq_true, holds comparesLow, holds comparesHigh,
        TimestampEncoding.relates_floor own (.inr rfl)]
      rfl
    exact ⟨_, range_date first last, accepts, fun exact_ => by rwa [exact_] at accepts⟩

def sampleColumn (encoding : TimestampEncoding) : StoredColumn String :=
  ⟨"created_at", .temporal encoding⟩

theorem date_filter_floors_sample :
    (∃ p, compile .date .equals (.text "1969-12-31T23:59:59.7501Z") (sampleColumn .timestampMs) = .ok p ∧
      (p.eval (BucketLabel.sampleMillis (-250))).holds = true) ∧
    (∃ p, compile .date .between (.array [.text "1970-01-01T00:00:59.9Z", .int 60000])
        (sampleColumn .datetime) = .ok p ∧ (p.eval BucketLabel.sampleText).holds = true) := by
  constructor
  · obtain ⟨p, compiled, holds, -⟩ := (date_filter_floors (sampleColumn .timestampMs)
      (BucketLabel.sampleMillis (-250)) ⟨-1, 750000000⟩ (by decide) (.millis (-250)) nofun).1
      .equals .equal (.text "1969-12-31T23:59:59.7501Z") ⟨-1, 750100000⟩ rfl (by decide +kernel)
      ⟨fun _ => by decide, nofun⟩
    exact ⟨p, compiled, holds.mpr (by decide)⟩
  · have year : (⟨59, 0⟩ : Instant).utc.date.HasPlainYear := by decide +kernel
    obtain ⟨p, compiled, holds, -⟩ := (date_filter_floors (sampleColumn .datetime)
      BucketLabel.sampleText ⟨59, 0⟩ rfl (.dateTime year (WallTime.isPlain_whole 59)) fun _ => rfl).2
      (.text "1970-01-01T00:00:59.9Z") (.int 60000) ⟨59, 900000000⟩ ⟨60, 0⟩ (by decide +kernel)
      (by decide +kernel) ⟨fun _ => by decide, fun _ => ⟨by decide, .inl year⟩⟩
      ⟨fun _ => by decide, fun _ => ⟨by decide, .inl year⟩⟩
    exact ⟨p, compiled, holds.mpr (by decide)⟩

/-- A column of seconds has a second that begins before the operand equal to it. -/
theorem date_filter_equals_earlier : ¬ ∀ (column : StoredColumn String) (v : RowView String)
    (t : Instant), (v.cell column.ref).kept (v.affinity column.ref) = v.cell column.ref →
      (dateEncoding column.storage).Stores (v.cell column.ref) t →
      (dateEncoding column.storage = .datetime → t.nanos = 0) →
      ∀ op c value u, FilterOperator.comparison? op = some c → Instant.ofJson value = .ok u →
        ∃ p, compile .date op value column = .ok p ∧ ((p.eval v).holds = true ↔ c.Relates t u) := by
  intro relates
  obtain ⟨p, compiled, holds⟩ := relates (sampleColumn .timestamp) (BucketLabel.sampleMillis 0)
    ⟨0, 0⟩ (by decide) (.seconds 0) nofun .equals .equal (.text "1970-01-01T00:00:00.5Z")
    ⟨0, 500000000⟩ rfl (by decide +kernel)
  have bound : compile .date .equals (.text "1970-01-01T00:00:00.5Z") (sampleColumn .timestamp)
      = .ok (.compare .equal (.column "created_at") (.bound (.int 0))) := by decide +kernel
  rw [bound] at compiled
  cases compiled
  exact absurd (holds.mp (by decide +kernel)) (by decide)

end Filter

end Analytics
