import Analytics.Proofs.Query.Shifts

/-!
Stored times against instants. A filter or a range binds what an instant is at the precision of its
column; a stored time stands to the bound value as its instant to what the bound value tells.
-/

namespace Analytics

namespace Comparison

def Relates {α : Type} [LE α] [LT α] (op : Comparison) (a b : α) : Prop :=
  match op with
  | .equal => a = b
  | .notEqual => a ≠ b
  | .greater => b < a
  | .atLeast => b ≤ a
  | .less => a < b
  | .atMost => a ≤ b

instance {α : Type} [LE α] [LT α] [DecidableEq α] [DecidableLE α] [DecidableLT α]
    (op : Comparison) (a b : α) : Decidable (op.Relates a b) :=
  match op with
  | .equal => inferInstanceAs (Decidable (a = b))
  | .notEqual => inferInstanceAs (Decidable (a ≠ b))
  | .greater => inferInstanceAs (Decidable (b < a))
  | .atLeast => inferInstanceAs (Decidable (b ≤ a))
  | .less => inferInstanceAs (Decidable (a < b))
  | .atMost => inferInstanceAs (Decidable (a ≤ b))

theorem holds_compare_iff (op : Comparison) (i j : Int) :
    op.holds (compare i j) = true ↔ op.Relates i j := by
  cases op <;> simp [holds, Relates, compare_lt_iff_lt, compare_gt_iff_gt, not_lt]

end Comparison

namespace Instant

def ofSecond (second : Int) : Instant := ⟨second, 0⟩

def ofMilli (millis : Int) : Instant := ⟨millis / 1000, (millis % 1000).toNat * 1000000⟩

theorem toMillis_ofMilli (millis : Int) : (ofMilli millis).toMillis = millis := by
  simp only [toMillis, ofMilli]
  omega

theorem relates_ofSecond (op : Comparison) (i j : Int) :
    op.Relates (ofSecond i) (ofSecond j) ↔ op.Relates i j := by
  cases op <;> simp only [Comparison.Relates, ofSecond, le_iff, lt_iff, mk.injEq, and_true, ne_eq]
    <;> omega

theorem relates_ofMilli (op : Comparison) (i j : Int) :
    op.Relates (ofMilli i) (ofMilli j) ↔ op.Relates i j := by
  cases op <;> simp only [Comparison.Relates, ofMilli, le_iff, lt_iff, mk.injEq, ne_eq] <;> omega

end Instant

namespace TimestampEncoding

def told (encoding : TimestampEncoding) (t : Instant) : Instant :=
  match encoding with
  | .timestampMs => .ofMilli t.toMillis
  | _ => .ofSecond t.seconds

/-- Whether the store reads the text that is bound for an instant, if it is bound as a text. -/
def Reads (encoding : TimestampEncoding) (t : Instant) : Prop :=
  encoding = .datetime → t.nanos < nanosPerSecond ∧ Clock.isValid (t.seconds * 1000) = true

/-- An instant at the precision of an encoding, without what is finer. -/
def floor (encoding : TimestampEncoding) (t : Instant) : Instant :=
  match encoding with
  | .timestampMs => ⟨t.seconds, t.nanos - t.nanos % 1000000⟩
  | _ => ⟨t.seconds, 0⟩

theorem told_eq_floor {encoding : TimestampEncoding} {t : Instant}
    (moment : encoding = .timestampMs → t.nanos < nanosPerSecond) :
    encoding.told t = encoding.floor t := by
  cases encoding with
  | timestampMs =>
    have moment := moment rfl
    simp only [told, floor, Instant.ofMilli, Instant.toMillis, nanosPerSecond, Instant.mk.injEq] at *
    omega
  | timestamp => rfl
  | datetime => rfl
  | date => rfl

theorem relates_floor {encoding : TimestampEncoding} {t : Instant} (own : encoding.floor t = t)
    {op : Comparison} (strict : op = .greater ∨ op = .atMost) (u : Instant) :
    op.Relates t (encoding.floor u) ↔ op.Relates t u := by
  have nanos := congrArg Instant.nanos own
  rcases strict with rfl | rfl <;> cases encoding <;>
    (simp only [Comparison.Relates, floor, Instant.lt_iff, Instant.le_iff] at *; omega)

namespace Stores

variable {κ : Type} {column : κ} {v : RowView κ} {encoding : TimestampEncoding} {c : Cell}
  {t u : Instant}

theorem floor_eq (stores : encoding.Stores c t) (whole : encoding = .datetime → t.nanos = 0) :
    encoding.floor t = t := by
  cases stores with
  | seconds count => rfl
  | millis count =>
    simp only [floor, Instant.mk.injEq, true_and]
    omega
  | text read =>
    have none := whole rfl
    exact congrArg (Instant.mk _) none.symm

theorem nanos_lt (stores : encoding.Stores c t) : t.nanos < nanosPerSecond := by
  cases stores <;> simp only [nanosPerSecond] <;> omega

theorem compare_text {millis : Int} (reads : Clock.Reads (v.cell column) millis)
    (plain : (Clock.reading millis).date.HasPlainYear) (moment : u.nanos < nanosPerSecond)
    (valid : Clock.isValid (u.seconds * 1000) = true) (op : Comparison) :
    ((Predicate.compare op (.timestamp (.column column))
      (.timestamp (.bound (.text u.dateTimeText)))).eval v).holds
    = op.holds (compare (millis / 1000) u.seconds) := by
  have seconds : u.utc.seconds = u.seconds := Int.add_zero _
  have known : Clock.isValid (u.utc.seconds * 1000) = true := by rw [seconds]; exact valid
  have early : u.utc.date.year ≤ 9999 := (Clock.knownYear_of_isValid known).2
  -- The lemma wants the plain year on the right, which is that of the stored text.
  have order := congrArg Ordering.swap
    (WallTime.compare_dateTimeText early plain moment (WallTime.isPlain_whole _))
  rw [← Std.OrientedCmp.eq_swap, ← Std.OrientedCmp.eq_swap, seconds] at order
  exact TimeRange.timestamp_compare reads (Clock.dateTime_text_known known moment) order op

theorem compare_holds (stores : encoding.Stores (v.cell column) t)
    (kept : (v.cell column).kept (v.affinity column) = v.cell column)
    (whole : encoding = .datetime →
      t.nanos = 0 ∧ (t.utc.date.HasPlainYear ∨ u.utc.date.HasPlainYear))
    (reads : encoding.Reads u) (op : Comparison) :
    ((Predicate.compare op (Filter.castTo encoding (.column column))
      (Filter.castTo encoding (.bound (Filter.encodeInstant encoding u)))).eval v).holds = true
      ↔ op.Relates t (encoding.told u) := by
  have number {i : Int} (own : v.cell column = .int i) : v.affinity column ≠ .text := by
    intro text
    rw [own, text] at kept
    cases kept
  generalize cell : v.cell column = c at stores
  cases stores with
  | seconds count =>
    simp only [Filter.castTo, Filter.encodeInstant, Predicate.eval, Scalar.eval, Scalar.affinity,
      Bind.toCell, Affinity.common_none, cell, Cell.compareCells_whole (number cell),
      Comparison.holds_compare_iff]
    exact (Instant.relates_ofSecond op count u.seconds).symm
  | millis count =>
    simp only [Filter.castTo, Filter.encodeInstant, Predicate.eval, Scalar.eval, Scalar.affinity,
      Bind.toCell, Affinity.common_none, cell, Cell.compareCells_whole (number cell),
      Comparison.holds_compare_iff]
    exact (Instant.relates_ofMilli op count u.toMillis).symm
  | @text text count own =>
    obtain ⟨noPart, plain⟩ := whole rfl
    obtain ⟨moment, valid⟩ := reads rfl
    have second : (⟨count / 1000, (count % 1000).toNat * 1000000⟩ : Instant)
        = .ofSecond (count / 1000) := congrArg (Instant.mk _) noPart
    have shown : ((Predicate.compare op (.timestamp (.column column))
        (.timestamp (.bound (.text u.dateTimeText)))).eval v).holds
        = op.holds (compare (count / 1000) u.seconds) := by
      rcases plain with plain | plain
      · rw [Instant.utc_date] at plain
        exact compare_text (cell ▸ own) plain moment valid op
      · exact TimeRange.timestamp_bound (cell ▸ own) plain moment op
    change _ ↔ op.Relates _ (Instant.ofSecond u.seconds)
    rw [second, Instant.relates_ofSecond, ← Comparison.holds_compare_iff, ← shown]
    rfl

end Stores

end TimestampEncoding

end Analytics
