import Analytics.Proofs.Query.Buckets
import Analytics.Proofs.Series.Titles

/-!
Keys in the names of group columns. Main statement: a name is read as a key exactly if it is what the
key is written as and the bars that part the key are its first ones; the parts of a key that has a
title hold no bar at all.
-/

namespace Analytics

namespace GroupKey

theorem splitBar_free {cs : List Char} (free : '|' ∉ cs) : splitBar cs = (cs, none) := by
  induction cs with
  | nil => rfl
  | cons c rest ih =>
    obtain ⟨other, later⟩ := not_or.mp (mt List.mem_cons.mpr free)
    rw [splitBar, if_neg (Ne.symm other), ih later]

theorem splitBar_bar {cs : List Char} (rest : List Char) (free : '|' ∉ cs) :
    splitBar (cs ++ '|' :: rest) = (cs, some rest) := by
  induction cs with
  | nil => rfl
  | cons c cs ih =>
    obtain ⟨other, later⟩ := not_or.mp (mt List.mem_cons.mpr free)
    rw [List.cons_append, splitBar, if_neg (Ne.symm other), ih later]

theorem splitBar_parts {cs first : List Char} {rest : Option (List Char)}
    (parted : splitBar cs = (first, rest)) :
    '|' ∉ first ∧ cs = first ++ (rest.map ('|' :: ·)).getD [] := by
  induction cs generalizing first with
  | nil =>
    cases parted
    exact ⟨List.not_mem_nil, rfl⟩
  | cons c cs ih =>
    rw [splitBar] at parted
    split at parted
    · rename_i bar
      cases parted
      exact ⟨List.not_mem_nil, by rw [bar]; rfl⟩
    · rename_i other
      cases parted
      obtain ⟨free, whole⟩ := ih rfl
      refine ⟨mt List.mem_cons.mp (not_or.mpr ⟨Ne.symm other, free⟩), ?_⟩
      rw [List.cons_append, ← whole]

/-- Whether the parts of a key can be told apart: no bar stands in front of the last part. -/
def IsApart : GroupKey → Prop
  | raw value => '|' ∉ value.toList
  | bucket value operator _ => '|' ∉ value.toList ∧ '|' ∉ operator.toList

theorem encode_raw_chars (value : String) : (raw value).encode.toList = '%' :: value.toList := by
  simp [encode, String.toList_append]

theorem encode_bucket_chars (value operator literal : String) :
    (bucket value operator literal).encode.toList
      = '%' :: (value.toList ++ '|' :: (operator.toList ++ '|' :: literal.toList)) := by
  simp [encode, String.toList_append]

theorem decodeBody_eq_some {body : List Char} {k : GroupKey} (read : decodeBody body = some k) :
    k.IsApart ∧ k.encode.toList = '%' :: body := by
  unfold decodeBody at read
  split at read
  · rename_i value whole
    cases read
    obtain ⟨free, rfl⟩ := splitBar_parts whole
    rw [encode_raw_chars, IsApart, String.toList_ofList]
    exact ⟨free, congrArg ('%' :: ·) (List.append_nil value).symm⟩
  · rename_i value rest first
    obtain ⟨free, rfl⟩ := splitBar_parts first
    split at read
    · cases read
    · rename_i operator literal second
      cases read
      obtain ⟨free', rfl⟩ := splitBar_parts second
      rw [encode_bucket_chars, IsApart, String.toList_ofList, String.toList_ofList,
        String.toList_ofList]
      exact ⟨⟨free, free'⟩, rfl⟩

theorem decode_encode {k : GroupKey} (apart : k.IsApart) : decode k.encode = some k := by
  unfold decode
  cases k with
  | raw value =>
    rw [encode_raw_chars]
    simp only [decodeBody, splitBar_free apart, String.ofList_toList]
  | bucket value operator literal =>
    obtain ⟨first, second⟩ := apart
    rw [encode_bucket_chars]
    simp only [decodeBody, splitBar_bar _ first, splitBar_bar _ second, String.ofList_toList]

theorem decode_eq_some_iff {name : String} {k : GroupKey} :
    decode name = some k ↔ k.IsApart ∧ k.encode = name := by
  constructor
  · intro read
    unfold decode at read
    split at read
    · rename_i body marked
      obtain ⟨apart, written⟩ := decodeBody_eq_some read
      exact ⟨apart, String.toList_injective (written.trans marked.symm)⟩
    · cases read
  · rintro ⟨apart, rfl⟩
    exact decode_encode apart

theorem plain_barless {part : String} (plain : part.toList.all IdentChar.isPlain = true) :
    '|' ∉ part.toList := by
  intro member
  have held := List.all_eq_true.mp plain '|' member
  exact absurd held (by decide)

theorem title_apart {k : GroupKey} {title : Ident} (named : k.title = .ok title) : k.IsApart := by
  have plain := plain_of_checkParts (title_parts named)
  cases k with
  | raw value => exact plain_barless (plain value List.mem_cons_self)
  | bucket value operator literal =>
    exact ⟨plain_barless (plain value (by simp [parts])),
      plain_barless (plain operator (by simp [parts]))⟩

theorem decode_title {k : GroupKey} {title : Ident} (named : k.title = .ok title) :
    decode title.text = some k :=
  decode_eq_some_iff.mpr ⟨title_apart named, (title_text named).symm⟩

/-- A key with a title is read back from it, so that no two keys share a title, and every name that is
read as a key is the one that the key is written as. -/
theorem title_round_trip :
    (∀ {k : GroupKey} {title : Ident}, k.title = .ok title → decode title.text = some k) ∧
    (∀ {k k' : GroupKey} {title title' : Ident}, k.title = .ok title → k'.title = .ok title' →
      k ≠ k' → title.text ≠ title'.text) ∧
    (∀ {name : String} {k : GroupKey}, decode name = some k → k.encode = name) := by
  refine ⟨decode_title, ?_, fun read => (decode_eq_some_iff.mp read).2⟩
  intro k k' title title' named named' other same
  have read := decode_title named
  rw [same, decode_title named'] at read
  exact other (Option.some.inj read).symm

theorem exists_title {k : GroupKey} (passes : k.title.toOption.isSome = true) :
    ∃ title, k.title = .ok title := by
  cases named : k.title with
  | error fault =>
    rw [named] at passes
    cases passes
  | ok title => exact ⟨title, rfl⟩

theorem title_round_trip_sample : ∃ title title',
    (raw "città").title = .ok title ∧ (bucket "città" "equals" "東京 ｜").title = .ok title' ∧
      decode title.text = some (raw "città") ∧ title.text ≠ title'.text ∧
      decode "%a|b|c|%d" = some (bucket "a" "b" "c|%d") ∧
      (bucket "a" "b" "c|%d").encode = "%a|b|c|%d" := by
  obtain ⟨title, named⟩ := exists_title (k := raw "città") (by decide +kernel)
  obtain ⟨title', named'⟩ := exists_title (k := bucket "città" "equals" "東京 ｜")
    (by decide +kernel)
  obtain ⟨reads, differ, writes⟩ := title_round_trip
  have read : decode "%a|b|c|%d" = some (bucket "a" "b" "c|%d") := by decide +kernel
  exact ⟨title, title', named, named', reads named, differ named named' (by decide), read,
    writes read⟩

end GroupKey

end Analytics
