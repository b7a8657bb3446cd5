import LinkedQueries.Proofs.Ingest.Lenient

/-!
# Aborted ingestion

A strict ingestion stops at the first line that is no entry, and any ingestion stops where its
reader fails. Up to there it does what a lenient one does to the lines before, and nothing else.

Results:
* `completeLines_joined`: lines that are written out with their line breaks are read back.
* `extractAll_eq`: the items of a reader are those of the lines that it serves, then its failure.
* `items_append`, `items_error`: a run over more items goes on from a run over fewer; a run that
  fails does so at one item.
* `items_relaxed_iff`: a strict run succeeds iff the lenient one does and skips nothing.
* **`log_aborted`**: strict and lenient runs, malformed lines and failing readers.
-/

namespace LinkedQueries

namespace AccessLog

/-! ## Lines that are written out -/

theorem completeLines_line {line : List UInt8} (h : lineBreak ∉ line) (bytes : List UInt8) :
    completeLines (line ++ lineBreak :: bytes) =
      (line :: (completeLines bytes).1, (completeLines bytes).2) := by
  induction line with
  | nil => exact completeLines_break bytes
  | cons b line ih =>
    have hb : b ≠ lineBreak := fun he => h (he ▸ List.mem_cons_self)
    rw [List.cons_append, completeLines_byte hb, ih fun hm => h (List.mem_cons_of_mem b hm)]
    rfl

theorem completeLines_rest {rest : List UInt8} (h : lineBreak ∉ rest) :
    completeLines rest = ([], rest) := by
  induction rest with
  | nil => rfl
  | cons b rest ih =>
    have hb : b ≠ lineBreak := fun he => h (he ▸ List.mem_cons_self)
    rw [completeLines_byte hb, ih fun hm => h (List.mem_cons_of_mem b hm)]
    rfl

/-- The lines that bytes are made up of are their lines. -/
theorem completeLines_joined : ∀ {ls}, Unbroken ls → completeLines (joined ls) = ls
  | ([], rest), ⟨_, hrest⟩ => completeLines_rest hrest
  | (line :: ls, rest), ⟨hls, hrest⟩ => by
    have ih : completeLines (joined (ls, rest)) = (ls, rest) :=
      completeLines_joined ⟨fun l hl => hls l (List.mem_cons_of_mem _ hl), hrest⟩
    have hjoined : joined (line :: ls, rest) = line ++ lineBreak :: joined (ls, rest) := by
      simp [joined]
    rw [hjoined, completeLines_line (hls line List.mem_cons_self), ih]

/-- Lines, each ended by a line break. -/
def terminated (ls : List (List UInt8)) : List UInt8 :=
  ls.flatMap (· ++ [lineBreak])

theorem lines_terminated {ls : List (List UInt8)} (h : ∀ line ∈ ls, lineBreak ∉ line) :
    lines (terminated ls) = ls := by
  have hjoined : joined (ls, []) = terminated ls := List.append_nil _
  unfold lines
  rw [← hjoined, completeLines_joined ⟨h, List.not_mem_nil⟩]
  rfl

/-! ## What a reader serves -/

/-- The lines that a reader serves: what follows the last line break is one of them only if the
reader does not fail. -/
def served (log : Input) : List (List UInt8) :=
  if log.failure.isSome then (completeLines log.bytes).1 else lines log.bytes

theorem served_eq (log : Input) :
    served log = (completeLines log.bytes).1 ∨
      served log = (completeLines log.bytes).1 ++ [(completeLines log.bytes).2] := by
  unfold served lines withRest
  split
  · exact .inl rfl
  · split
    · exact .inl rfl
    · exact .inr rfl

theorem unbroken_served (log : Input) : ∀ line ∈ served log, lineBreak ∉ line := by
  obtain ⟨hlines, hrest⟩ := unbroken_completeLines log.bytes
  rcases served_eq log with h | h
  · exact h ▸ hlines
  · intro line hline
    rcases List.mem_append.mp (h ▸ hline) with hline | hline
    · exact hlines line hline
    · exact List.mem_singleton.mp hline ▸ hrest

/-- The lines before a served line are what the bytes begin with. -/
theorem terminated_take_prefix {log : Input} {n : Nat} (h : n < (served log).length) :
    terminated ((served log).take n) <+: log.bytes := by
  have htake : (served log).take n = (completeLines log.bytes).1.take n := by
    rcases served_eq log with hs | hs
    · rw [hs]
    · rw [hs, List.length_append, List.length_singleton] at h
      rw [hs, List.take_append_of_le_length (Nat.le_of_lt_succ h)]
  refine ⟨terminated ((completeLines log.bytes).1.drop n) ++ (completeLines log.bytes).2, ?_⟩
  calc terminated ((served log).take n) ++ _
    _ = joined (completeLines log.bytes) := by
      unfold terminated joined
      rw [htake, ← List.append_assoc, ← List.flatMap_append, List.take_append_drop]
    _ = log.bytes := completeLines_join log.bytes

/-- The items of a reader are those of the lines that it serves, and then its failure. -/
theorem extractAll_eq (strict : Bool) (log : Input) :
    extractAll strict log =
      (served log).map (extractBytes strict) ++ (log.failure.map (.error ∘ .io)).toList := by
  obtain ⟨bytes, failure⟩ := log
  cases failure with
  | none => exact (extractAll_complete strict bytes).trans (List.append_nil _).symm
  | some failure => rfl

/-- The items of some lines that are written out and read to the end. -/
theorem extractAll_terminated (strict : Bool) {ls : List (List UInt8)}
    (h : ∀ line ∈ ls, lineBreak ∉ line) :
    extractAll strict ⟨terminated ls, none⟩ = ls.map (extractBytes strict) := by
  rw [extractAll_complete, lines_terminated h]

theorem numbered_getElem? {α : Type} (items : List α) (n : Nat) :
    (numbered items)[n]? = items[n]?.map fun item => (n + 1, item) := by
  unfold numbered
  simp [Function.comp_def]

theorem numbered_concat {α : Type} (items : List α) (item : α) :
    numbered (items ++ [item]) = numbered items ++ [(items.length + 1, item)] := by
  unfold numbered
  simp [List.zipIdx_append]

theorem forall_numbered {α : Type} {p : α → Prop} {items : List α} :
    (∀ x ∈ numbered items, p x.2) ↔ ∀ item ∈ items, p item := by
  have h : (∀ item ∈ (numbered items).map (·.2), p item) ↔ ∀ x ∈ numbered items, p x.2 :=
    List.forall_mem_map
  rw [← h, numbered_snd]

theorem numbered_take {α : Type} (items : List α) (n : Nat) :
    (numbered items).take n = numbered (items.take n) := by
  ext1 i
  rw [List.getElem?_take, numbered_getElem?, numbered_getElem?, List.getElem?_take]
  split <;> rfl

/-- A malformed item is that of a line. -/
theorem extractAll_malformed {strict : Bool} {log : Input} {n : Nat} {text : String}
    {reason : Rejection}
    (h : (extractAll strict log)[n]? = some (.error (.malformed text reason))) :
    ∃ line, (served log)[n]? = some line ∧
      extractBytes strict line = .error (.malformed text reason) := by
  rw [extractAll_eq, List.getElem?_append] at h
  split at h
  · rwa [List.getElem?_map, Option.map_eq_some_iff] at h
  · have hmem := List.mem_of_getElem? h
    cases hf : log.failure <;> simp [hf] at hmem

/-! ## Strict and lenient items -/

/-- What a lenient reader makes of the item of a strict one. -/
def relaxed : Except LogError (Option Entry) → Except LogError (Option Entry)
  | .error (.malformed _ _) => .ok none
  | .error (.io failure) => .error (.io failure)
  | .ok entry => .ok entry

theorem extractBytes_relaxed (line : List UInt8) :
    relaxed (extractBytes true line) = extractBytes false line := by
  unfold extractBytes
  cases Entry.ofBytes? (withoutReturn line) <;> rfl

theorem extractAll_relaxed (log : Input) :
    (extractAll true log).map relaxed = extractAll false log := by
  rw [extractAll_eq, extractAll_eq, List.map_append, List.map_map]
  refine congrArg₂ _ (List.map_congr_left fun line _ => extractBytes_relaxed line) ?_
  cases log.failure <;> rfl

/-- A strict reader skips nothing. -/
theorem extractBytes_strict_ne (line : List UInt8) : extractBytes true line ≠ .ok none := by
  unfold extractBytes
  cases Entry.ofBytes? (withoutReturn line) <;> simp [settle]

theorem extractAll_strict_ne (log : Input) : ∀ x ∈ extractAll true log, x ≠ .ok none := by
  rw [extractAll_eq]
  intro x hx
  rcases List.mem_append.mp hx with hx | hx
  · obtain ⟨line, -, rfl⟩ := List.mem_map.mp hx
    exact extractBytes_strict_ne line
  · cases hf : log.failure with
    | none => simp [hf] at hx
    | some failure => simp_all

/-- An accepted item is the entry of its line, if any. -/
theorem extractBytes_of_ok {strict : Bool} {line : List UInt8} {e : Option Entry}
    (h : extractBytes strict line = .ok e) : e = entryOf line := by
  unfold extractBytes settle at h
  unfold entryOf
  cases hread : Entry.ofBytes? (withoutReturn line) with
  | ok entry =>
    rw [hread] at h
    exact (Except.ok.inj h).symm
  | error reason =>
    rw [hread] at h
    cases strict with
    | true => cases h
    | false => exact (Except.ok.inj h).symm

end AccessLog

namespace Ingest

open AccessLog

variable {read : QueryReader} {options : IngestOptions}

/-! ## One item -/

theorem prepare_skippedLines (known : Bool) (r : QueryRecord) (c : IngestSummary) :
    (prepare read options known r c).2.skippedLines = c.skippedLines := by
  unfold prepare
  dsimp only
  split
  · rfl
  · split
    · split <;> rfl
    · rfl

/-- An entry skips no line, and fails only if the store does. -/
theorem entry_cases (s : RecordStore) (n : Nat) (e : Entry) (c : IngestSummary) :
    (∃ s' c', entry read options s n e c = (s', .ok c') ∧ c'.skippedLines = c.skippedLines) ∨
      ∃ s' error, entry read options s n e c = (s', .error (.store error)) := by
  unfold entry
  cases e.query with
  | none => exact .inl ⟨_, _, rfl, rfl⟩
  | some query =>
    dsimp only
    unfold commit
    cases s.merge (look read options s n e query c).1 with
    | ok s' => exact .inl ⟨_, _, rfl, prepare_skippedLines ..⟩
    | error error => exact .inr ⟨_, _, rfl⟩

/-- Nothing has been read from a line and the reader has not failed. -/
def isSkipped : Except LogError (Option Entry) → Bool
  | .ok none => true
  | .ok (some _) => false
  | .error _ => false

/-- An item is counted as skipped if it is, or is the error of the run, or the store fails. -/
theorem item_cases (s : RecordStore) (n : Nat) (x : Except LogError (Option Entry))
    (c : IngestSummary) :
    (∃ s' c', item read options s n x c = (s', .ok c') ∧ (∃ y, x = .ok y) ∧
      c'.skippedLines = c.skippedLines + if isSkipped x then 1 else 0) ∨
    (∃ e, x = .error e ∧ item read options s n x c = (s, .error (.log e))) ∨
    ∃ s' error, item read options s n x c = (s', .error (.store error)) := by
  rcases x with e | _ | e
  · exact .inr (.inl ⟨e, rfl, rfl⟩)
  · exact .inl ⟨_, _, rfl, ⟨_, rfl⟩, rfl⟩
  · rcases entry_cases s n e { c with lines := c.lines + 1 } with ⟨s', c', h, hc⟩ | ⟨s', error, h⟩
    · exact .inl ⟨s', c', h, ⟨_, rfl⟩, hc⟩
    · exact .inr (.inr ⟨s', error, h⟩)

/-- An item that cannot be read is the error of the run and leaves the store as it is. -/
theorem item_error_log {s s' : RecordStore} {n : Nat} {x : Except LogError (Option Entry)}
    {c : IngestSummary} {e : LogError} (h : item read options s n x c = (s', .error (.log e))) :
    x = .error e ∧ s' = s := by
  rcases item_cases s n x c with ⟨_, _, hitem, -⟩ | ⟨e', rfl, hitem⟩ | ⟨_, _, hitem⟩
  · cases hitem.symm.trans h
  · cases hitem.symm.trans h
    exact ⟨rfl, rfl⟩
  · cases hitem.symm.trans h

/-! ## Runs over some items -/

/-- What is done with an item does not depend on how the reader treats other lines. -/
theorem items_mode (strict : Bool) : ∀ xs s c,
    items read { options with strict } xs s c = items read options xs s c
  | [], _, _ => rfl
  | (n, x) :: xs, s, c => by
    have hitem : item read { options with strict } s n x c = item read options s n x c := rfl
    rw [items, items, hitem]
    rcases item read options s n x c with ⟨s', e | c'⟩
    · rfl
    · exact items_mode strict xs s' c'

theorem items_append : ∀ xs ys s c,
    items read options (xs ++ ys) s c =
      match items read options xs s c with
      | (s', .error e) => (s', .error e)
      | (s', .ok c') => items read options ys s' c'
  | [], _, _, _ => rfl
  | (n, x) :: xs, ys, s, c => by
    rw [List.cons_append, items, items]
    rcases item read options s n x c with ⟨s', e | c'⟩
    · rfl
    · exact items_append xs ys s' c'

/-- A run that fails does so at one item, after a run over the items before. -/
theorem items_error : ∀ {xs s c s' e}, items read options xs s c = (s', .error e) →
    ∃ n s₁ c₁ x, items read options (xs.take n) s c = (s₁, .ok c₁) ∧ xs[n]? = some x ∧
      item read options s₁ x.1 x.2 c₁ = (s', .error e)
  | [], _, _, _, _, h => by cases h
  | (k, x) :: xs, s, c, s', e, h => by
    rw [items] at h
    cases hitem : item read options s k x c with
    | mk s₀ r =>
      rw [hitem] at h
      cases r with
      | error e₀ => exact ⟨0, s, c, (k, x), rfl, rfl, hitem.trans h⟩
      | ok c₀ =>
        obtain ⟨n, s₁, c₁, y, hitems, hy, herror⟩ := items_error h
        refine ⟨n + 1, s₁, c₁, y, ?_, hy, herror⟩
        rw [List.take_succ_cons, items, hitem]
        exact hitems

/-- A run that succeeds has met no error and counted what it skipped. -/
theorem items_ok : ∀ {xs s c s' c'}, items read options xs s c = (s', .ok c') →
    (∀ x ∈ xs, ∃ y, x.2 = .ok y) ∧
      c'.skippedLines = c.skippedLines + xs.countP fun x => isSkipped x.2
  | [], _, _, _, _, h => by
    cases h
    exact ⟨fun _ hx => absurd hx List.not_mem_nil, rfl⟩
  | (n, x) :: xs, s, c, s', c', h => by
    rw [items] at h
    rcases item_cases s n x c with ⟨s₁, c₁, hitem, hx, hc⟩ | ⟨e, -, hitem⟩ | ⟨s₁, e, hitem⟩
    · rw [hitem] at h
      obtain ⟨hxs, hc'⟩ := items_ok h
      refine ⟨List.forall_mem_cons.mpr ⟨hx, hxs⟩, ?_⟩
      rw [hc', hc, List.countP_cons]
      dsimp only
      omega
    · rw [hitem] at h
      cases h
    · rw [hitem] at h
      cases h

theorem relaxed_eq_of_ok {x : Except LogError (Option Entry)} :
    (∃ y, x = .ok y) → relaxed x = x := by
  rintro ⟨y, rfl⟩
  rfl

theorem relaxed_eq_of_not_skipped : ∀ {x : Except LogError (Option Entry)},
    isSkipped (relaxed x) = false → relaxed x = x
  | .error (.malformed _ _), h => by cases h
  | .error (.io _), _ => rfl
  | .ok _, _ => rfl

theorem isSkipped_eq_false : ∀ {x : Except LogError (Option Entry)},
    x ≠ .ok none → isSkipped x = false
  | .error _, _ => rfl
  | .ok (some _), _ => rfl
  | .ok none, h => absurd rfl h

/-- The items of a lenient reader are those of a strict one if none of these is to be relaxed. -/
theorem map_relaxed {xs : List (Nat × Except LogError (Option Entry))}
    (h : ∀ x ∈ xs, relaxed x.2 = x.2) : (xs.map fun x => (x.1, relaxed x.2)) = xs := by
  have hid : (xs.map fun x => (x.1, relaxed x.2)) = xs.map id :=
    List.map_congr_left fun x hx => by rw [h x hx]; rfl
  rw [hid, List.map_id]

/-- A strict run succeeds iff the lenient one does and skips nothing; then both are the same. -/
theorem items_relaxed_iff {xs : List (Nat × Except LogError (Option Entry))}
    (hstrict : ∀ x ∈ xs, x.2 ≠ .ok none) {s s' : RecordStore} {c c' : IngestSummary} :
    items read options xs s c = (s', .ok c') ↔
      items read options (xs.map fun x => (x.1, relaxed x.2)) s c = (s', .ok c') ∧
        c'.skippedLines = c.skippedLines := by
  constructor
  · intro h
    obtain ⟨hok, hcount⟩ := items_ok h
    have hnone : (xs.countP fun x => isSkipped x.2) = 0 :=
      List.countP_eq_zero.mpr fun x hx => by simp [isSkipped_eq_false (hstrict x hx)]
    rw [map_relaxed fun x hx => relaxed_eq_of_ok (hok x hx)]
    exact ⟨h, by rw [hcount, hnone, Nat.add_zero]⟩
  · rintro ⟨h, hskipped⟩
    obtain ⟨-, hcount⟩ := items_ok h
    rw [hskipped, List.countP_map] at hcount
    have hnone : ∀ x ∈ xs, isSkipped (relaxed x.2) = false := fun x hx =>
      Bool.eq_false_iff.mpr (List.countP_eq_zero.mp (Nat.left_eq_add.mp hcount) x hx)
    rwa [map_relaxed fun x hx => relaxed_eq_of_not_skipped (hnone x hx)] at h

/-! ## Logs -/

theorem log_mode (strict : Bool) (s : RecordStore) (log : Input) :
    Ingest.log read { options with strict } s log =
      items read options (numbered (extractAll strict log)) s IngestSummary.zero :=
  items_mode strict ..

/-- A strict ingestion of a log succeeds iff the lenient one does and skips nothing. -/
theorem log_strict_iff (log : Input) {s s' : RecordStore} {c : IngestSummary} :
    Ingest.log read { options with strict := true } s log = (s', .ok c) ↔
      Ingest.log read { options with strict := false } s log = (s', .ok c) ∧
        c.skippedLines = 0 := by
  rw [log_mode, log_mode, ← extractAll_relaxed, numbered_map]
  exact items_relaxed_iff (forall_numbered.mpr (extractAll_strict_ne log))

/-- A strict ingestion that stops at a malformed line has done what a lenient one does to the lines
before that line. -/
theorem log_malformed {log : Input} {s s' : RecordStore} {text : String} {reason : Rejection}
    (h : Ingest.log read { options with strict := true } s log =
      (s', .error (.log (.malformed text reason)))) :
    ∃ n line, (served log)[n]? = some line ∧
      extractBytes true line = .error (.malformed text reason) ∧
      (∀ earlier ∈ (served log).take n, ∃ e, extractBytes true earlier = .ok (some e)) ∧
      ∃ c, Ingest.log read { options with strict := false } s
        ⟨terminated ((served log).take n), none⟩ = (s', .ok c) := by
  rw [log_mode] at h
  obtain ⟨n, s₁, c, x, hrun, hx, hitem⟩ := items_error h
  obtain ⟨hx', rfl⟩ := item_error_log hitem
  obtain ⟨line, hline, herror⟩ : ∃ line, (served log)[n]? = some line ∧
      extractBytes true line = .error (.malformed text reason) := by
    rw [numbered_getElem?, Option.map_eq_some_iff] at hx
    obtain ⟨_, hx, rfl⟩ := hx
    exact extractAll_malformed (hx' ▸ hx)
  have hn : n < (served log).length := (List.getElem?_eq_some_iff.mp hline).1
  have htake : (extractAll true log).take n = ((served log).take n).map (extractBytes true) := by
    rw [extractAll_eq, List.take_append_of_le_length (by simpa using Nat.le_of_lt hn),
      List.map_take]
  rw [numbered_take, htake] at hrun
  have hearlier : ∀ earlier ∈ (served log).take n,
      ∃ e, extractBytes true earlier = .ok (some e) := by
    intro earlier h
    have hok : ∀ x ∈ ((served log).take n).map (extractBytes true), ∃ y, x = .ok y :=
      forall_numbered.mp (items_ok hrun).1
    obtain ⟨_ | e, hy⟩ := hok _ (List.mem_map_of_mem h)
    · exact absurd hy (extractBytes_strict_ne earlier)
    · exact ⟨e, hy⟩
  have hsame : ((served log).take n).map (extractBytes false) =
      ((served log).take n).map (extractBytes true) :=
    List.map_congr_left fun earlier h => by
      obtain ⟨e, he⟩ := hearlier earlier h
      rw [← extractBytes_relaxed, he]
      rfl
  have hunbroken : ∀ earlier ∈ (served log).take n, lineBreak ∉ earlier := fun earlier h =>
    unbroken_served log earlier (List.mem_of_mem_take h)
  refine ⟨n, line, hline, herror, hearlier, c, ?_⟩
  rw [log_mode, extractAll_terminated false hunbroken, hsame, hrun]

/-- An ingestion whose reader fails has done what it does to the lines that were completed before,
if none of these is an error. -/
theorem log_cut (read : QueryReader) (options : IngestOptions) {s : RecordStore} (hs : s.WellKeyed)
    {bytes : List UInt8} (failure : Failure)
    (h : ∀ line ∈ (completeLines bytes).1, ∃ e, extractBytes options.strict line = .ok e) :
    ∃ s' c, Ingest.log read options s ⟨terminated (completeLines bytes).1, none⟩ = (s', .ok c) ∧
      Ingest.log read options s ⟨bytes, some failure⟩ = (s', .error (.log (.io failure))) := by
  have hentries : (completeLines bytes).1.map (extractBytes options.strict) =
      (completeLines bytes).1.map fun line => .ok (entryOf line) :=
    List.map_congr_left fun line hline => by
      obtain ⟨e, he⟩ := h line hline
      rw [he, extractBytes_of_ok he]
  obtain ⟨s', c, hitems, -⟩ := items_lenient read options
    ((numbered (completeLines bytes).1).map fun x => (x.1, entryOf x.2)) hs IngestSummary.zero
  have hnumbered : numbered ((completeLines bytes).1.map fun line => .ok (entryOf line)) =
      ((numbered (completeLines bytes).1).map fun x => (x.1, entryOf x.2)).map
        fun x => (x.1, (.ok x.2 : Except LogError (Option Entry))) := by
    rw [List.map_map]
    exact numbered_map ..
  rw [← hnumbered] at hitems
  refine ⟨s', c, ?_, ?_⟩
  · unfold Ingest.log
    rw [extractAll_terminated _ (unbroken_completeLines bytes).1, hentries]
    exact hitems
  · have hall : extractAll options.strict ⟨bytes, some failure⟩ =
        (completeLines bytes).1.map (fun line => .ok (entryOf line)) ++ [.error (.io failure)] := by
      rw [← hentries]
      rfl
    unfold Ingest.log
    rw [hall, numbered_concat, items_append, hitems]
    rfl

/-- **An aborted ingestion is a prefix of the lenient one.** A strict ingestion succeeds iff the
lenient one does and skips nothing; then summary and store are the same. If it stops at a malformed
line, the store is what the lenient ingestion of the lines before leaves. If the reader fails and no
line that was completed before is an error, the failure is the error, and the store is what a
complete ingestion of the completed lines leaves. -/
theorem log_aborted (read : QueryReader) (options : IngestOptions) (store : RecordStore)
    (log : Input) :
    (∀ store' summary,
      Ingest.log read { options with strict := true } store log = (store', .ok summary) ↔
        Ingest.log read { options with strict := false } store log = (store', .ok summary) ∧
          summary.skippedLines = 0) ∧
    (∀ store' text reason,
      Ingest.log read { options with strict := true } store log =
          (store', .error (.log (.malformed text reason))) →
        ∃ n line, (served log)[n]? = some line ∧
          extractBytes true line = .error (.malformed text reason) ∧
          (∀ earlier ∈ (served log).take n, ∃ e, extractBytes true earlier = .ok (some e)) ∧
          terminated ((served log).take n) <+: log.bytes ∧
          ∃ summary, Ingest.log read { options with strict := false } store
            ⟨terminated ((served log).take n), none⟩ = (store', .ok summary)) ∧
    (store.Reachable → ∀ m failure,
      (∀ line ∈ (completeLines (log.bytes.take m)).1,
        ∃ e, extractBytes options.strict line = .ok e) →
      ∃ store' summary,
        Ingest.log read options store
          ⟨terminated (completeLines (log.bytes.take m)).1, none⟩ = (store', .ok summary) ∧
        Ingest.log read options store ⟨log.bytes.take m, some failure⟩ =
          (store', .error (.log (.io failure)))) := by
  refine ⟨fun _ _ => log_strict_iff log, fun store' text reason h => ?_, fun hs m failure h =>
    log_cut read options hs.wellKeyed failure h⟩
  obtain ⟨n, line, hline, herror, hearlier, hrun⟩ := log_malformed h
  exact ⟨n, line, hline, herror, hearlier,
    terminated_take_prefix (List.getElem?_eq_some_iff.mp hline).1, hrun⟩

/-- A query, a line that is no entry, and another query of which only a part is read. -/
theorem log_aborted_malformed_and_cut :
    let line (query : String) :=
      "h - u [01/Jan/2021:00:00:00 +0000] \"GET /?query=".toList ++ query.toList ++
        " HTTP/1.1\" 200 3 \"-\"\n".toList
    let first := Utf8.encode (line "ASK")
    let malformed := Utf8.encode "x\n".toList
    let log := first ++ malformed ++ Utf8.encode (line "SELECT")
    let read : QueryReader := fun _ _ => .error "incomplete"
    let lenient : IngestOptions := ⟨false, true, none⟩
    let reset : Failure := ⟨.connectionReset, "reset"⟩
    (∃ store' summary,
      Ingest.log read { lenient with strict := true } .empty ⟨log, none⟩ =
        (store', .error (.log (.malformed "x" .grammar))) ∧
      Ingest.log read lenient .empty ⟨first, none⟩ = (store', .ok summary)) ∧
    ∃ store' summary,
      Ingest.log read lenient .empty ⟨log.take 100, some reset⟩ =
        (store', .error (.log (.io reset))) ∧
      Ingest.log read lenient .empty ⟨first ++ malformed, none⟩ = (store', .ok summary) := by
  intro line first malformed log read lenient reset
  obtain ⟨-, hmalformed, hcut⟩ := log_aborted read lenient .empty ⟨log, none⟩
  refine ⟨?_, ?_⟩
  · have hstrict : (Ingest.log read { lenient with strict := true } .empty ⟨log, none⟩).2 =
        .error (.log (.malformed "x" .grammar)) := by decide +kernel
    obtain ⟨n, line, hline, herror, hearlier, -, summary, hrun⟩ :=
      hmalformed _ "x" .grammar (Prod.ext rfl hstrict)
    have hfirst : (served ⟨log, none⟩)[0]?.map (extractBytes true) ≠
        some (.error (.malformed "x" .grammar)) := by decide +kernel
    have hsecond : (served ⟨log, none⟩)[1]? = some [0x78] := by decide +kernel
    obtain rfl : n = 1 := by
      rcases n with _ | _ | n
      · exact absurd (by rw [hline, Option.map_some, herror]) hfirst
      · rfl
      · have hmem : [0x78] ∈ (served ⟨log, none⟩).take (n + 2) := List.mem_of_getElem? (i := 1) (by
          rw [List.getElem?_take_of_lt (by omega), hsecond])
        obtain ⟨e, he⟩ := hearlier _ hmem
        have hx : extractBytes true [0x78] = .error (.malformed "x" .grammar) := by decide +kernel
        cases hx.symm.trans he
    have hbefore : terminated ((served ⟨log, none⟩).take 1) = first := by decide +kernel
    exact ⟨_, summary, Prod.ext rfl hstrict, hbefore ▸ hrun⟩
  · obtain ⟨store', summary, hrun, hfailed⟩ :=
      hcut .empty 100 reset fun line _ => ⟨_, extractBytes_lenient line⟩
    have hlines : terminated (completeLines (log.take 100)).1 = first ++ malformed := by
      decide +kernel
    exact ⟨store', summary, hfailed, hlines ▸ hrun⟩

end Ingest

end LinkedQueries
